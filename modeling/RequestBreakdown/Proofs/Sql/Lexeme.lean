import RequestBreakdown.Sql.Literal

/-!
# Reading the literals of a statement

A statement is read from left to right.  A single quote opens a literal, two
quotes side by side inside of it stand for one, and the next quote closes it.
What matters for texts made of parts is where reading a part ends: a part that
leaves no literal open can be read by itself, unless a quote at its end meets
a quote at the beginning of the next.
-/

namespace RequestBreakdown

inductive Lexeme where
  | char (c : Char)
  /-- A literal, with each doubled quote made single. -/
  | literal (text : List Char)
  /-- The text after a quote that is never closed. -/
  | unclosed (text : List Char)
  deriving DecidableEq, Repr

namespace Lexeme

def isClosed : Lexeme → Bool
  | .unclosed _ => false
  | _ => true

def blank : Lexeme → Lexeme
  | .literal _ => .literal []
  | other => other

/-- The lexemes of a text; inside of a literal, the part of it read so far is
given. -/
def readFrom : Option (List Char) → List Char → List Lexeme
  | none, [] => []
  | none, c :: rest =>
    if c = '\'' then readFrom (some []) rest else .char c :: readFrom none rest
  | some text, [] => [.unclosed text]
  | some text, '\'' :: '\'' :: rest => readFrom (some (text ++ ['\''])) rest
  | some text, '\'' :: rest => .literal text :: readFrom none rest
  | some text, c :: rest => readFrom (some (text ++ [c])) rest

def read (cs : List Char) : List Lexeme := readFrom none cs

end Lexeme

/-- The lexemes of a statement with one marker for all literals. -/
def skeleton (statement : String) : List Lexeme :=
  (Lexeme.read statement.toList).map Lexeme.blank

namespace Lexeme

/-! ## Texts that leave no literal open -/

def Closed (cs : List Char) : Prop := (read cs).all isClosed = true

instance (cs : List Char) : Decidable (Closed cs) :=
  inferInstanceAs (Decidable (_ = true))

/-- No quote at the end of the first text meets one at the beginning of the
second. -/
def Apart (a b : List Char) : Prop :=
  a.getLast? ≠ some '\'' ∨ b.head? ≠ some '\''

theorem Apart.tail {c : Char} {a b : List Char}
    (hapart : Apart (c :: a) b) (ha : a ≠ []) : Apart a b := by
  unfold Apart at hapart ⊢
  rwa [List.getLast?_cons_of_ne_nil ha] at hapart

theorem readFrom_close {text b : List Char} (hb : b.head? ≠ some '\'') :
    readFrom (some text) ('\'' :: b) = .literal text :: readFrom none b := by
  rw [readFrom]
  intro rest hrest
  simp [hrest] at hb

theorem readFrom_within {text rest : List Char} {c : Char} (hc : c ≠ '\'') :
    readFrom (some text) (c :: rest) = readFrom (some (text ++ [c])) rest := by
  rw [readFrom]
  · exact fun _ hquote _ => hc hquote
  · exact hc

/-- Reading in parts: from any mode, a text that leaves no literal open is read
without regard to what follows. -/
theorem readFrom_append (mode : Option (List Char)) (a b : List Char)
    (hclosed : (readFrom mode a).all isClosed = true)
    (hapart : Apart a b) :
    readFrom mode (a ++ b) = readFrom mode a ++ readFrom none b := by
  -- As long as something of `a` is left, its end stays apart from `b`.
  fun_induction readFrom mode a with
  | case1 => rfl
  | case2 rest ih =>
      have hrest : rest ≠ [] := by
        rintro rfl
        simp [readFrom, isClosed] at hclosed
      simpa [readFrom] using ih hclosed (hapart.tail hrest)
  | case3 c rest hc ih =>
      simp only [List.all_cons, isClosed, Bool.true_and] at hclosed
      by_cases hrest : rest = []
      · subst rest
        simp [readFrom, hc]
      · simpa [readFrom, hc] using ih hclosed (hapart.tail hrest)
  | case4 text => simp [isClosed] at hclosed
  | case5 text rest ih =>
      have hrest : rest ≠ [] := by
        rintro rfl
        simp [readFrom, isClosed] at hclosed
      simpa [readFrom] using
        ih hclosed ((hapart.tail (by simp)).tail hrest)
  | case6 text rest hdoubled ih =>
      simp only [List.all_cons, isClosed, Bool.true_and] at hclosed
      -- The quote closes the literal in front of `b` as well.
      have hfollow : (rest ++ b).head? ≠ some '\'' := by
        cases rest with
        | nil => simpa [Apart] using hapart
        | cons c rest =>
            intro hhead
            exact hdoubled rest (by simpa using hhead)
      rw [List.cons_append, readFrom_close hfollow]
      by_cases hrest : rest = []
      · subst rest
        simp [readFrom]
      · simpa using ih hclosed (hapart.tail hrest)
  | case7 text c rest hdoubled hquote ih =>
      have hrest : rest ≠ [] := by
        rintro rfl
        simp [readFrom, isClosed] at hclosed
      rw [List.cons_append, readFrom_within hquote]
      exact ih hclosed (hapart.tail hrest)

theorem read_append {a b : List Char} (ha : Closed a) (hapart : Apart a b) :
    read (a ++ b) = read a ++ read b :=
  readFrom_append none a b ha hapart

theorem Closed.append {a b : List Char} (ha : Closed a) (hb : Closed b)
    (hapart : Apart a b) : Closed (a ++ b) := by
  unfold Closed at ha hb ⊢
  rw [read_append ha hapart, List.all_append, ha, hb]
  rfl

theorem read_eq_nil {cs : List Char} : read cs = [] ↔ cs = [] := by
  have hwithin : ∀ mode cs, mode ≠ none → readFrom mode cs ≠ [] := by
    intro mode cs hmode
    fun_induction readFrom mode cs with
    | case1 => exact absurd rfl hmode
    | case2 rest ih => exact ih (by simp)
    | case3 => simp
    | case4 => simp
    | case5 text rest ih => exact ih (by simp)
    | case6 => simp
    | case7 text c rest hdoubled hquote ih => exact ih (by simp)
  constructor
  · intro hread
    cases cs with
    | nil => rfl
    | cons c rest =>
        unfold read readFrom at hread
        split at hread
        · exact absurd hread (hwithin (some []) rest (by simp))
        · exact absurd hread (by simp)
  · rintro rfl
    rfl

/-! ## Texts without quotes, and literals -/

theorem read_of_noQuote {cs : List Char} (hcs : '\'' ∉ cs) :
    read cs = cs.map .char := by
  induction cs with
  | nil => rfl
  | cons c rest ih =>
      simp only [List.mem_cons, not_or] at hcs
      have hc : c ≠ '\'' := fun h => hcs.1 h.symm
      have hrest := ih hcs.2
      unfold read at hrest ⊢
      simp [readFrom, hc, hrest]

theorem closed_of_noQuote {cs : List Char} (hcs : '\'' ∉ cs) : Closed cs := by
  unfold Closed
  rw [read_of_noQuote hcs]
  simp [isClosed]

theorem readFrom_doubleQuotes (text cs b : List Char) :
    readFrom (some text) (Literal.doubleQuotes cs ++ b) =
      readFrom (some (text ++ cs)) b := by
  induction cs generalizing text with
  | nil => simp [Literal.doubleQuotes]
  | cons c rest ih =>
      have hrest := ih (text ++ [c])
      simp only [Literal.doubleQuotes, List.append_assoc,
        List.singleton_append] at hrest
      by_cases hc : c = '\''
      · subst c
        simpa [Literal.doubleQuotes, readFrom] using hrest
      · simpa [Literal.doubleQuotes, hc, readFrom_within hc] using hrest

/-- A quoted text is read as one literal, whatever it holds. -/
theorem read_quote (s : String) :
    read (Literal.quote s).toList = [.literal s.toList] := by
  have hinside := readFrom_doubleQuotes [] s.toList ['\'']
  simpa [read, readFrom, Literal.quote] using hinside

theorem closed_quote (s : String) : Closed (Literal.quote s).toList := by
  unfold Closed
  rw [read_quote]
  rfl

end Lexeme

end RequestBreakdown
