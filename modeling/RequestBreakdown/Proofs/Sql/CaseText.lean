import RequestBreakdown.Proofs.Sql.PlainText

/-!
# Reading a case expression

The text of a case expression is divided into words and literals.  Each branch
compares a column with a number and has a label, and one label is for rows that no
branch holds of.  What is read has a value for every row: the label of the first
branch that holds.
-/

namespace RequestBreakdown

inductive StatementToken where
  | word (text : String)
  | literal (text : String)
  | unclosed
  deriving DecidableEq, Repr

namespace StatementToken

def ofWord (word : List Char) : List StatementToken :=
  if word.isEmpty then [] else [.word (String.ofList word)]

/-- The tokens of some lexemes; what was read of a word so far is given.  A word ends
at a blank or at a literal. -/
def group : List Char → List Lexeme → List StatementToken
  | begun, [] => ofWord begun
  | begun, .char c :: rest =>
    if c.isWhitespace then ofWord begun ++ group [] rest
    else group (begun ++ [c]) rest
  | begun, .literal text :: rest =>
    ofWord begun ++ .literal (String.ofList text) :: group [] rest
  | begun, .unclosed _ :: rest => ofWord begun ++ .unclosed :: group [] rest

def read (cs : List Char) : List StatementToken := group [] (Lexeme.read cs)

end StatementToken

inductive NumberRelation where
  | equal
  | less
  deriving DecidableEq, Repr

namespace NumberRelation

def ofText? : String → Option NumberRelation
  | "=" => some .equal
  | "<" => some .less
  | _ => none

def holds (a b : Nat) : NumberRelation → Bool
  | .equal => a == b
  | .less => decide (a < b)

end NumberRelation

structure CaseBranch where
  column : String
  relation : NumberRelation
  number : Nat
  label : String
  deriving DecidableEq, Repr

structure CaseExpression where
  branches : List CaseBranch
  /-- The label where no branch holds. -/
  otherwise : String
  deriving DecidableEq, Repr

/-- Whether a branch holds of a row, given by the numbers in its columns. -/
def CaseBranch.holds (row : String → Nat) (b : CaseBranch) : Bool :=
  b.relation.holds (row b.column) b.number

namespace CaseExpression

def labels (e : CaseExpression) : List String :=
  e.branches.map (·.label) ++ [e.otherwise]

def value (e : CaseExpression) (row : String → Nat) : String :=
  ((e.branches.find? (·.holds row)).map (·.label)).getD e.otherwise

def numeral? (text : String) : Option Nat :=
  if text.toList ≠ [] ∧ text.toList.all Char.isDigit then
    some (Text.digitsValue text.toList)
  else none

def ofBranches? : List StatementToken → Option CaseExpression
  | [.word "ELSE", .literal label, .word "END"] => some ⟨[], label⟩
  | .word "WHEN" :: .word column :: .word relation :: .word number ::
      .word "THEN" :: .literal label :: rest => do
    let relation ← NumberRelation.ofText? relation
    let number ← numeral? number
    let later ← ofBranches? rest
    return { later with branches := ⟨column, relation, number, label⟩ :: later.branches }
  | _ => none

def read? (text : String) : Option CaseExpression :=
  match StatementToken.read text.toList with
  | .word "CASE" :: rest => ofBranches? rest
  | _ => none

end CaseExpression

/-- A text that is read as one word. -/
def IsWord (text : String) : Prop :=
  text ≠ "" ∧ text.toList.all (fun c => !c.isWhitespace && c != '\'') = true

instance (text : String) : Decidable (IsWord text) :=
  inferInstanceAs (Decidable (_ ∧ _))

theorem isWord_iff {text : String} : IsWord text ↔
    text ≠ "" ∧ ∀ c ∈ text.toList, c.isWhitespace = false ∧ c ≠ '\'' := by
  simp [IsWord]

/-! ## Tokens of spaced words -/

namespace StatementToken

theorem group_word {cs : List Char} (hcs : ∀ c ∈ cs, c.isWhitespace = false)
    (begun : List Char) (rest : List Lexeme) :
    group begun (cs.map .char ++ rest) = group (begun ++ cs) rest := by
  induction cs generalizing begun with
  | nil => simp
  | cons c later ih =>
      have hc := hcs c List.mem_cons_self
      have hlater := ih (fun d hd => hcs d (List.mem_cons_of_mem _ hd)) (begun ++ [c])
      rw [List.append_assoc] at hlater
      rw [List.map_cons, List.cons_append, group, if_neg (by simp [hc]), hlater]
      rfl

theorem read_append {cs : List Char} (hcs : '\'' ∉ cs) (rest : List Char) :
    Lexeme.read (cs ++ rest) = cs.map .char ++ Lexeme.read rest := by
  have hapart : Lexeme.Apart cs rest :=
    .inl fun hlast => hcs (List.mem_of_mem_getLast? hlast)
  rw [Lexeme.read_append (Lexeme.closed_of_noQuote hcs) hapart,
    Lexeme.read_of_noQuote hcs]

theorem read_word {text : String} (htext : IsWord text) (rest : List Char) :
    read (text.toList ++ ' ' :: rest) = .word text :: read rest := by
  obtain ⟨hsome, hchars⟩ := isWord_iff.mp htext
  have hquote : '\'' ∉ text.toList ++ [' '] := by
    intro hmem
    rcases List.mem_append.mp hmem with hmem | hmem
    · exact (hchars _ hmem).2 rfl
    · exact absurd (List.mem_singleton.mp hmem) (by decide)
  have hlexemes : Lexeme.read (text.toList ++ ' ' :: rest) =
      text.toList.map .char ++ .char ' ' :: Lexeme.read rest := by
    have hread := read_append hquote rest
    simpa using hread
  have hword : ofWord text.toList = [.word text] := by
    have hne : text.toList ≠ [] := by simpa using hsome
    simp [ofWord, hne]
  unfold read
  rw [hlexemes, group_word (fun c hc => (hchars c hc).1), List.nil_append, group,
    if_pos (by decide), hword]
  rfl

def spaced (words : List String) : List Char :=
  words.flatMap fun word => word.toList ++ [' ']

theorem read_spaced {words : List String} (hwords : ∀ word ∈ words, IsWord word)
    (rest : List Char) :
    read (spaced words ++ rest) = words.map .word ++ read rest := by
  induction words with
  | nil => rfl
  | cons word later ih =>
      have hfirst := read_word (hwords word List.mem_cons_self) (spaced later ++ rest)
      have hlater := ih fun other hother => hwords other (List.mem_cons_of_mem _ hother)
      rw [hlater] at hfirst
      simpa [spaced] using hfirst

theorem read_quote (text : String) (rest : List Char) :
    read ((Literal.quote text).toList ++ ' ' :: rest) = .literal text :: read rest := by
  have hapart : Lexeme.Apart (Literal.quote text).toList (' ' :: rest) :=
    .inr (by simp)
  have hlexemes : Lexeme.read ((Literal.quote text).toList ++ ' ' :: rest) =
      .literal text.toList :: .char ' ' :: Lexeme.read rest := by
    have hnone : '\'' ∉ [' '] := by decide
    have hblank : Lexeme.read (' ' :: rest) = .char ' ' :: Lexeme.read rest :=
      read_append hnone rest
    rw [Lexeme.read_append (Lexeme.closed_quote text) hapart, Lexeme.read_quote,
      hblank]
    rfl
  unfold read
  rw [hlexemes, group, group, if_pos (by decide), String.ofList_toList]
  rfl

end StatementToken

/-! ## Numerals -/

theorem toList_numeral (n : Nat) : (toString n).toList = Nat.toDigits 10 n := by
  rw [Nat.toString_eq_ofList_toDigits, String.toList_ofList]

theorem isWord_numeral (n : Nat) : IsWord (toString n) := by
  rw [isWord_iff]
  constructor
  · intro hempty
    have hlist := congrArg String.toList hempty
    rw [toList_numeral] at hlist
    exact Nat.toDigits_ne_nil hlist
  · intro c hc
    rw [toList_numeral] at hc
    have hdigit := Nat.isDigit_of_mem_toDigits (by decide) (by decide) hc
    constructor
    · rw [Bool.eq_false_iff]
      intro hblank
      simp only [Char.isWhitespace, Bool.or_eq_true, decide_eq_true_eq] at hblank
      rcases hblank with ((rfl | rfl) | rfl) | rfl <;> exact absurd hdigit (by decide)
    · rintro rfl
      exact absurd hdigit (by decide)

theorem CaseExpression.numeral?_toString (n : Nat) :
    numeral? (toString n) = some n := by
  have hdigits : (toString n).toList.all Char.isDigit = true := by
    rw [toList_numeral, List.all_eq_true]
    intro c hc
    exact Nat.isDigit_of_mem_toDigits (by decide) (by decide) hc
  have hsome : (toString n).toList ≠ [] := by
    rw [toList_numeral]
    exact Nat.toDigits_ne_nil
  unfold numeral?
  rw [if_pos ⟨hsome, hdigits⟩, toList_numeral]
  exact congrArg some Nat.ofDigitChars_ten_toDigits

end RequestBreakdown
