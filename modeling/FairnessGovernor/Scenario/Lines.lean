/-
# The lines of a scenario

A scenario is read line by line.  A line is split into tokens at blanks; a comment ends it, and
so does a label, which is the rest of the line.  Lines with neither a token nor a label are
skipped.  The next line never depends on what was made of the lines before it, so all lines are
split here at once.
-/
import FairnessGovernor.Scenario.Numbers
import Mathlib.Data.List.DropRight

namespace FairnessGovernor

/-- `Parser::Line`. -/
structure Line where
  number : ℕ := 0
  tokens : List ByteBuffer := []
  label : ByteBuffer := []
  hasLabel : Bool := false

/-- A space or a tab. -/
def isBlank (character : UInt8) : Bool := character = 32 || character = 9

/-- The label behind the token `label=`: what is written in the token, and what follows it
without the blanks around. -/
def labelOf (inlineValue rest : ByteBuffer) : ByteBuffer :=
  let rest := (rest.dropWhile isBlank).rdropWhile isBlank
  if inlineValue ≠ [] then
    if rest ≠ [] then inlineValue ++ ascii " " ++ rest else inlineValue
  else rest

/-- The loop over the tokens of a line.  Every round consumes a byte at least, so the length of
the line is a bound on the number of rounds. -/
def scanTokens : ℕ → ByteBuffer → Line → Line
  | 0, _, line => line
  | rounds + 1, raw, line =>
    let raw := raw.dropWhile isBlank
    if raw.isEmpty ∨ raw.head? = some 35 then line
    else
      let token := raw.takeWhile (! isBlank ·)
      let rest := raw.dropWhile (! isBlank ·)
      if ascii "label=" <+: token then
        { line with hasLabel := true, label := labelOf (token.drop 6) rest }
      else scanTokens rounds rest { line with tokens := line.tokens ++ [token] }

/-- What one line of the text is split into. -/
def lineOf (number : ℕ) (raw : ByteBuffer) : Line :=
  let raw := if raw.getLast? = some 13 then raw.dropLast else raw
  scanTokens raw.length raw { number := number }

/-- The text between the line ends; the last line need not have one. -/
def rawLines : ByteBuffer → List ByteBuffer
  | [] => []
  | character :: rest =>
    if character = 10 then [] :: rawLines rest
    else
      match rawLines rest with
      | [] => [[character]]
      | line :: lines => (character :: line) :: lines

/-- `Parser::next_line`, until the text is exhausted. -/
def linesOf (text : ByteBuffer) : List Line :=
  ((rawLines text).zipIdx 1).map (fun raw => lineOf raw.2 raw.1) |>.filter fun line =>
    ! (line.tokens.isEmpty && ! line.hasLabel)

/-! ## The rounds suffice -/

lemma length_dropWhile_lt {raw : ByteBuffer} (h : (raw.dropWhile isBlank) ≠ []) :
    ((raw.dropWhile isBlank).dropWhile (! isBlank ·)).length < raw.length := by
  have hle := (List.dropWhile_sublist isBlank (l := raw)).length_le
  cases hraw : raw.dropWhile isBlank with
  | nil => exact absurd hraw h
  | cons character rest =>
    have hhead : isBlank character = false := by
      have := List.head?_dropWhile_not isBlank raw
      rw [hraw] at this
      simpa using this
    rw [hraw, List.length_cons] at hle
    rw [List.dropWhile_cons_of_pos (by rw [hhead]; rfl)]
    have hrest := (List.dropWhile_sublist (! isBlank ·) (l := rest)).length_le
    omega

/-- More rounds than the line has bytes change nothing. -/
theorem scanTokens_eq {rounds : ℕ} {raw : ByteBuffer} {line : Line} (h : raw.length ≤ rounds) :
    scanTokens rounds raw line = scanTokens raw.length raw line := by
  obtain ⟨n, hn⟩ : ∃ n, n = raw.length := ⟨_, rfl⟩
  induction n using Nat.strong_induction_on generalizing rounds raw line with
  | _ n ih =>
    cases hlength : raw.length with
    | zero =>
      obtain rfl := List.eq_nil_of_length_eq_zero hlength
      cases rounds with
      | zero => rfl
      | succ rounds => rfl
    | succ bytes =>
      obtain ⟨rounds, rfl⟩ : ∃ more, rounds = more + 1 := ⟨rounds - 1, by omega⟩
      unfold scanTokens
      dsimp only
      split_ifs with hend hlabel
      · rfl
      · rfl
      · rw [not_or, List.isEmpty_iff] at hend
        have hlt := length_dropWhile_lt hend.1
        have hbytes : _ ≤ bytes := Nat.lt_succ_iff.mp (hlt.trans_eq hlength)
        rw [ih _ (by omega) (by omega) rfl, ih _ (by omega) hbytes rfl]

end FairnessGovernor
