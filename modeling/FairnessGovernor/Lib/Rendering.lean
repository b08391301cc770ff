/-
# Texts that can be read back

A text is put together from words.  A word can be told from what follows it when the letter that
follows is none of its own; so lines can be told apart by their separator, and the fields of a
line, each a name and a value, by the blank in front of them.
-/
import Mathlib.Tactic

namespace Rendering

variable {α β γ : Type}

/-! ## Words -/

/-- What follows a word is empty, or starts with a letter that is not one of a word. -/
def Stops (stop : α → Prop) (rest : List α) : Prop := ∀ a ∈ rest.head?, stop a

@[simp] lemma stops_nil (stop : α → Prop) : Stops stop [] := by
  simp [Stops]

@[simp] lemma stops_cons (stop : α → Prop) (a : α) (rest : List α) :
    Stops stop (a :: rest) ↔ stop a := by
  simp [Stops]

variable {stop : α → Prop} {w w' rest rest' : List α}

/-- Two words are the same, and what follows them. -/
lemma word_cancel (hw : ∀ a ∈ w, ¬ stop a) (hw' : ∀ a ∈ w', ¬ stop a) (hrest : Stops stop rest)
    (hrest' : Stops stop rest') (h : w ++ rest = w' ++ rest') : w = w' ∧ rest = rest' := by
  induction w generalizing w' with
  | nil =>
    cases w' with
    | nil => exact ⟨rfl, h⟩
    | cons a w' =>
      rw [List.nil_append, List.cons_append] at h
      rw [h, stops_cons] at hrest
      exact absurd hrest (hw' a List.mem_cons_self)
  | cons a w ih =>
    cases w' with
    | nil =>
      rw [List.nil_append, List.cons_append] at h
      rw [← h, stops_cons] at hrest'
      exact absurd hrest' (hw a List.mem_cons_self)
    | cons b w' =>
      obtain ⟨rfl, hmore⟩ := List.cons.inj h
      obtain ⟨rfl, hrest⟩ := ih (fun c hc => hw c (List.mem_cons_of_mem _ hc))
        (fun c hc => hw' c (List.mem_cons_of_mem _ hc)) hmore
      exact ⟨rfl, hrest⟩

/-- Words that are followed by one and the same letter. -/
lemma word_cancel_letter {a : α} (hw : a ∉ w) (hw' : a ∉ w')
    (h : w ++ a :: rest = w' ++ a :: rest') : w = w' ∧ rest = rest' := by
  obtain ⟨hword, hrest⟩ := @word_cancel α (· = a) _ _ _ _ (fun b hb heq => hw (heq ▸ hb))
    (fun b hb heq => hw' (heq ▸ hb)) (by simp) (by simp) h
  exact ⟨hword, (List.cons.inj hrest).2⟩

/-! ## Lines -/

/-- The lines, each followed by the separator. -/
def lines (separator : α) (ls : List (List α)) : List α :=
  ls.flatMap fun line => line ++ [separator]

@[simp] lemma lines_nil (separator : α) : lines separator [] = [] := rfl

@[simp] lemma lines_cons (separator : α) (line : List α) (ls : List (List α)) :
    lines separator (line :: ls) = line ++ separator :: lines separator ls := by
  simp [lines]

/-- Lines without the separator can be read back. -/
lemma lines_injective {separator : α} {ls ls' : List (List α)} (hls : ∀ line ∈ ls, separator ∉ line)
    (hls' : ∀ line ∈ ls', separator ∉ line) (h : lines separator ls = lines separator ls') :
    ls = ls' := by
  induction ls generalizing ls' with
  | nil =>
    cases ls' with
    | nil => rfl
    | cons line ls' => simp at h
  | cons line ls ih =>
    cases ls' with
    | nil => simp at h
    | cons line' ls' =>
      rw [lines_cons, lines_cons] at h
      rw [List.forall_mem_cons] at hls hls'
      obtain ⟨rfl, hrest⟩ := word_cancel_letter hls.1 hls'.1 h
      rw [ih hls.2 hls'.2 hrest]

/-- Lists are the same, and what follows them, where a property tells their members apart from
what follows. -/
lemma append_cancel {p : β → Prop} {xs xs' ys ys' : List β} (hxs : ∀ x ∈ xs, p x)
    (hxs' : ∀ x ∈ xs', p x) (hys : ∀ y ∈ ys, ¬ p y) (hys' : ∀ y ∈ ys', ¬ p y)
    (h : xs ++ ys = xs' ++ ys') : xs = xs' ∧ ys = ys' :=
  @word_cancel β (fun y => ¬ p y) _ _ _ _ (fun x hx => not_not.mpr (hxs x hx))
    (fun x hx => not_not.mpr (hxs' x hx)) (fun y hy => hys y (List.mem_of_mem_head? hy))
    (fun y hy => hys' y (List.mem_of_mem_head? hy)) h

/-- Each part has members of its own key. -/
abbrev Keyed {κ : Type} (key : β → κ) : List κ → List (List β) → Prop :=
  List.Forall₂ fun k part => ∀ x ∈ part, key x = k

lemma Keyed.mem_keys {κ : Type} {key : β → κ} {keys : List κ} {parts : List (List β)}
    (h : Keyed key keys parts) : ∀ x ∈ parts.flatten, key x ∈ keys := by
  induction h with
  | nil => simp
  | cons hpart _ ih =>
    intro x hx
    rw [List.flatten_cons, List.mem_append] at hx
    rcases hx with hx | hx
    · rw [hpart x hx]
      exact List.mem_cons_self
    · exact List.mem_cons_of_mem _ (ih x hx)

/-- Parts can be told apart by the keys of their members. -/
lemma flatten_cancel {κ : Type} {key : β → κ} {keys : List κ} {parts parts' : List (List β)}
    (hkeys : keys.Nodup) (hparts : Keyed key keys parts) (hparts' : Keyed key keys parts')
    (h : parts.flatten = parts'.flatten) : parts = parts' := by
  induction hparts generalizing parts' with
  | nil =>
    cases hparts'
    rfl
  | @cons k part keys parts hpart hmore ih =>
    cases hparts' with
    | @cons _ part' _ parts' hpart' hmore' =>
      rw [List.flatten_cons, List.flatten_cons] at h
      rw [List.nodup_cons] at hkeys
      -- no member of a later part has the key of this one
      have hlater : ∀ {parts : List (List β)}, Keyed key keys parts →
          ∀ x ∈ parts.flatten, ¬ key x = k := by
        intro parts hkeyed x hx heq
        exact hkeys.1 (heq ▸ hkeyed.mem_keys x hx)
      obtain ⟨rfl, hrest⟩ :=
        @append_cancel β (key · = k) _ _ _ _ hpart hpart' (hlater hmore) (hlater hmore') h
      rw [ih hkeys.2 hmore' hrest]

/-- Lists that are written member by member show what their members show. -/
lemma map_cancel {dom : β → Prop} {write : β → List α} {view : β → γ}
    (hwrite : ∀ x y, dom x → dom y → write x = write y → view x = view y) {xs ys : List β}
    (hxs : ∀ x ∈ xs, dom x) (hys : ∀ y ∈ ys, dom y) (h : xs.map write = ys.map write) :
    xs.map view = ys.map view := by
  induction xs generalizing ys with
  | nil =>
    obtain rfl := List.map_eq_nil_iff.mp h.symm
    rfl
  | cons x xs ih =>
    cases ys with
    | nil => cases h
    | cons y ys =>
      rw [List.map_cons, List.map_cons] at h
      obtain ⟨hhead, htail⟩ := List.cons.inj h
      rw [List.forall_mem_cons] at hxs hys
      rw [List.map_cons, List.map_cons, hwrite x y hxs.1 hys.1 hhead, ih hxs.2 hys.2 htail]

/-! ## Fields -/

/-- The fields, each with a blank in front, and between its name and its value a sign. -/
def fields (blank equals : α) (fs : List (List α × List α)) : List α :=
  fs.flatMap fun field => blank :: field.1 ++ equals :: field.2

@[simp] lemma fields_nil (blank equals : α) : fields blank equals [] = [] := rfl

@[simp] lemma fields_cons (blank equals : α) (name value : List α)
    (fs : List (List α × List α)) :
    fields blank equals ((name, value) :: fs) =
      blank :: (name ++ equals :: (value ++ fields blank equals fs)) := by
  simp [fields]

variable {blank equals : α} {fs fs' : List (List α × List α)}

lemma fields_stops (h : Stops (· = blank) rest) :
    Stops (· = blank) (fields blank equals fs ++ rest) := by
  cases fs with
  | nil => exact h
  | cons field fs => exact (stops_cons _ _ _).mpr rfl

/-- Fields of the same names, with values without blanks, can be read back. -/
lemma fields_cancel (hnames : fs.map Prod.fst = fs'.map Prod.fst)
    (hfs : ∀ field ∈ fs, blank ∉ field.2) (hfs' : ∀ field ∈ fs', blank ∉ field.2)
    (hrest : Stops (· = blank) rest) (hrest' : Stops (· = blank) rest')
    (h : fields blank equals fs ++ rest = fields blank equals fs' ++ rest') :
    fs = fs' ∧ rest = rest' := by
  induction fs generalizing fs' with
  | nil =>
    obtain rfl := List.map_eq_nil_iff.mp hnames.symm
    exact ⟨rfl, h⟩
  | cons field fs ih =>
    cases fs' with
    | nil => cases hnames
    | cons field' fs' =>
      obtain ⟨name, value⟩ := field
      obtain ⟨name', value'⟩ := field'
      rw [List.map_cons, List.map_cons] at hnames
      obtain ⟨hname, hmore⟩ := List.cons.inj hnames
      obtain rfl : name = name' := hname
      rw [List.forall_mem_cons] at hfs hfs'
      -- behind the name and the sign both go on with a value
      have hvalues : value ++ (fields blank equals fs ++ rest) =
          value' ++ (fields blank equals fs' ++ rest') := by
        simpa using h
      obtain ⟨rfl, htails⟩ := @word_cancel α (· = blank) _ _ _ _
        (fun a ha heq => hfs.1 (heq ▸ ha)) (fun a ha heq => hfs'.1 (heq ▸ ha))
        (fields_stops hrest) (fields_stops hrest') hvalues
      obtain ⟨rfl, hrests⟩ := ih hmore hfs.2 hfs'.2 htails
      exact ⟨rfl, hrests⟩

/-- A field that may be left out. -/
def optionalField (blank equals : α) (name : List α) (value : Option (List α)) : List α :=
  value.elim [] fun value => blank :: (name ++ equals :: value)

/-- What follows an optional field, or stands in its place, does not start as it does. -/
lemma optionalField_cancel {name : List α} {value value' : Option (List α)}
    (hvalue : ∀ v ∈ value, blank ∉ v) (hvalue' : ∀ v ∈ value', blank ∉ v)
    (hrest : Stops (· = blank) rest) (hrest' : Stops (· = blank) rest')
    (hother : ¬ blank :: (name ++ [equals]) <+: rest)
    (hother' : ¬ blank :: (name ++ [equals]) <+: rest')
    (h : optionalField blank equals name value ++ rest =
      optionalField blank equals name value' ++ rest') :
    value = value' ∧ rest = rest' := by
  cases value with
  | none =>
    cases value' with
    | none => exact ⟨rfl, h⟩
    | some v =>
      refine absurd ⟨v ++ rest', ?_⟩ hother
      simpa [optionalField] using h.symm
  | some v =>
    cases value' with
    | none =>
      refine absurd ⟨v ++ rest, ?_⟩ hother'
      simpa [optionalField] using h
    | some v' =>
      have hvalues : v ++ rest = v' ++ rest' := by
        simpa [optionalField] using h
      obtain ⟨rfl, hrests⟩ := @word_cancel α (· = blank) _ _ _ _
        (fun a ha heq => hvalue v rfl (heq ▸ ha)) (fun a ha heq => hvalue' v' rfl (heq ▸ ha))
        hrest hrest' hvalues
      exact ⟨rfl, hrests⟩

end Rendering
