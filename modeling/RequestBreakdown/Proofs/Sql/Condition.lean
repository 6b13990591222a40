import RequestBreakdown.Filter.Predicate

/-!
# Reading a condition

A condition is spelled by tokens: columns, operators, literals, conditions that
are given as they are, parentheses, and the two connectives.  The tokens are
read from left to right with the precedence of statements: a comparison binds
its operands first, `AND` binds more than `OR`, and parentheses bind what is
inside of them.  What is read has a meaning for every assignment of truth to
comparisons and given conditions.
-/

namespace RequestBreakdown

inductive Condition where
  | always
  | given (text : String)
  | comparison (column : String) (operator : FilterOperator) (negated : Bool)
      (literal : String)
  | and (a b : Condition)
  | or (a b : Condition)
  deriving DecidableEq, Repr

/-- Which given conditions and which comparisons hold of a row. -/
structure Truth where
  given : String → Prop
  comparison : String → FilterOperator → String → Prop

/-- A negated operator is the negation of its positive form. -/
def Condition.Holds (truth : Truth) : Condition → Prop
  | .always => True
  | .given text => truth.given text
  | .comparison column operator negated literal =>
    if negated then ¬ truth.comparison column operator literal
    else truth.comparison column operator literal
  | .and a b => a.Holds truth ∧ b.Holds truth
  | .or a b => a.Holds truth ∨ b.Holds truth

inductive ConditionToken where
  | opening
  | closing
  | and
  | or
  | always
  | given (text : String)
  | column (name : String)
  | operator (op : FilterOperator) (negated : Bool)
  | literal (text : String)
  deriving DecidableEq, Repr

namespace ConditionToken

def text : ConditionToken → String
  | .opening => "("
  | .closing => ")"
  | .and => "AND"
  | .or => "OR"
  | .always => "1=1"
  | .given text => text
  | .column name => name
  | .operator .equals false => "="
  | .operator .like false => "LIKE"
  | .operator .equals true => "!="
  | .operator .like true => "NOT LIKE"
  | .literal text => text

/-- What stands between two tokens: nothing inside of a parenthesis, else one
blank. -/
def gap (a b : ConditionToken) : String :=
  if a = .opening ∨ b = .closing then "" else " "

def spell : List ConditionToken → String
  | [] => ""
  | [a] => a.text
  | a :: b :: rest => a.text ++ a.gap b ++ spell (b :: rest)

@[simp]
theorem text_column (name : String) : (ConditionToken.column name).text = name :=
  rfl

@[simp]
theorem text_literal (s : String) : (ConditionToken.literal s).text = s := rfl

@[simp]
theorem text_operator (op : FilterOperator) :
    (ConditionToken.operator op false).text = op.text := by
  cases op <;> rfl

@[simp]
theorem text_operator_negated (op : FilterOperator) :
    (ConditionToken.operator op true).text = op.negatedText := by
  cases op <;> rfl

end ConditionToken

/-! ## The reader -/

/-- The part of a condition read since the last parenthesis that is still open:
the alternatives before the last `OR`, and the factors behind it. -/
structure OpenCondition where
  alternatives : Option Condition := none
  factors : Option Condition := none
  deriving DecidableEq, Repr

namespace OpenCondition

def addFactor (o : OpenCondition) (c : Condition) : OpenCondition :=
  { o with factors := some (o.factors.elim c (.and · c)) }

def whole (o : OpenCondition) : Option Condition :=
  match o.alternatives, o.factors with
  | none, factors => factors
  | some a, some b => some (.or a b)
  | some a, none => some a

def nextAlternative (o : OpenCondition) : OpenCondition :=
  { alternatives := o.whole, factors := none }

end OpenCondition

/-- What may come next. -/
inductive Awaited where
  | operand
  | operator (column : String)
  | literal (column : String) (operator : FilterOperator) (negated : Bool)
  | connective
  deriving DecidableEq, Repr

structure ConditionReader where
  /-- What was read before the parentheses that are open. -/
  outer : List OpenCondition := []
  current : OpenCondition := {}
  awaited : Awaited := .operand
  deriving DecidableEq, Repr

namespace ConditionReader

def operand (r : ConditionReader) (c : Condition) : ConditionReader :=
  { r with current := r.current.addFactor c, awaited := .connective }

/-- The reader after one token, unless the token has no place there. -/
def step (r : ConditionReader) (token : ConditionToken) :
    Option ConditionReader :=
  match r.awaited, token with
  | .operand, .always => some (r.operand .always)
  | .operand, .given text => some (r.operand (.given text))
  | .operand, .column column => some { r with awaited := .operator column }
  | .operand, .opening =>
    some { outer := r.current :: r.outer, current := {}, awaited := .operand }
  | .operator column, .operator operator negated =>
    some { r with awaited := .literal column operator negated }
  | .literal column operator negated, .literal text =>
    some (r.operand (.comparison column operator negated text))
  | .connective, .and => some { r with awaited := .operand }
  | .connective, .or =>
    some { r with current := r.current.nextAlternative, awaited := .operand }
  | .connective, .closing =>
    match r.outer, r.current.whole with
    | before :: outer, some inner =>
      some { outer, current := before.addFactor inner, awaited := .connective }
    | _, _ => none
  | _, _ => none

def run (r : ConditionReader) (tokens : List ConditionToken) :
    Option ConditionReader :=
  tokens.foldlM step r

def result? (r : ConditionReader) : Option Condition :=
  if r.outer = [] ∧ r.awaited = .connective then r.current.whole else none

end ConditionReader

namespace Condition

def read? (tokens : List ConditionToken) : Option Condition :=
  (ConditionReader.run {} tokens).bind (·.result?)

end Condition

/-! ## Factors -/

namespace ConditionReader

theorem run_append (r : ConditionReader) (a b : List ConditionToken) :
    r.run (a ++ b) = (r.run a).bind (·.run b) :=
  List.foldlM_append ..

theorem run_cons (r : ConditionReader) (token : ConditionToken)
    (rest : List ConditionToken) :
    r.run (token :: rest) = (r.step token).bind (·.run rest) := rfl

/-- Wherever an operand may come, the tokens are read as one factor more, with
the given meaning. -/
def ReadsAs (tokens : List ConditionToken) (meaning : Truth → Prop) : Prop :=
  ∀ outer o, ∃ c,
    run ⟨outer, o, .operand⟩ tokens =
      some ⟨outer, { o with factors := some c }, .connective⟩ ∧
    ∀ truth, c.Holds truth ↔
      (∀ d ∈ o.factors, d.Holds truth) ∧ meaning truth

theorem holds_addFactor (factors : Option Condition) (c : Condition)
    (truth : Truth) :
    (factors.elim c (.and · c)).Holds truth ↔
      (∀ d ∈ factors, d.Holds truth) ∧ c.Holds truth := by
  cases factors <;> simp [Condition.Holds]

theorem readsAs_operand {tokens : List ConditionToken} {c : Condition}
    (hrun : ∀ outer o, run ⟨outer, o, .operand⟩ tokens =
      some (operand ⟨outer, o, .operand⟩ c)) :
    ReadsAs tokens (c.Holds ·) := by
  intro outer o
  exact ⟨_, hrun outer o, holds_addFactor o.factors c⟩

theorem ReadsAs.and {a b : List ConditionToken} {p q : Truth → Prop}
    (ha : ReadsAs a p) (hb : ReadsAs b q) :
    ReadsAs (a ++ .and :: b) (fun truth => p truth ∧ q truth) := by
  intro outer o
  obtain ⟨c, hc, hmeaning⟩ := ha outer o
  obtain ⟨d, hd, hrest⟩ := hb outer { o with factors := some c }
  refine ⟨d, ?_, ?_⟩
  · rw [run_append, hc]
    exact hd
  · intro truth
    rw [hrest]
    simp [hmeaning, and_assoc]

theorem readsAs_enclosed {tokens : List ConditionToken} {meaning : Truth → Prop}
    (hinner : ∀ outer, ∃ o c,
      run ⟨outer, {}, .operand⟩ tokens = some ⟨outer, o, .connective⟩ ∧
        o.whole = some c ∧ ∀ truth, c.Holds truth ↔ meaning truth) :
    ReadsAs (.opening :: (tokens ++ [.closing])) meaning := by
  intro outer o
  obtain ⟨inner, c, hrun, hwhole, hmeaning⟩ := hinner (o :: outer)
  refine ⟨o.factors.elim c (.and · c), ?_, ?_⟩
  · have hopen : step ⟨outer, o, .operand⟩ .opening =
        some ⟨o :: outer, {}, .operand⟩ := rfl
    rw [run_cons, hopen, Option.bind_some, run_append, hrun]
    simp [run, step, hwhole, OpenCondition.addFactor]
  · intro truth
    rw [holds_addFactor, hmeaning]

theorem ReadsAs.enclosed {tokens : List ConditionToken} {meaning : Truth → Prop}
    (htokens : ReadsAs tokens meaning) :
    ReadsAs (.opening :: (tokens ++ [.closing])) meaning := by
  apply readsAs_enclosed
  intro outer
  obtain ⟨c, hrun, hmeaning⟩ := htokens outer {}
  exact ⟨_, c, hrun, rfl, by simpa using hmeaning⟩

section Lists

variable {α : Type} {tokens : α → List ConditionToken}
  {meaning : α → Truth → Prop}

theorem readsAs_conjunction {items : List α} (hsome : items ≠ [])
    (hitems : ∀ x ∈ items, ReadsAs (tokens x) (meaning x)) :
    ReadsAs ([ConditionToken.and].intercalate (items.map tokens))
      (fun truth => ∀ x ∈ items, meaning x truth) := by
  induction items with
  | nil => exact absurd rfl hsome
  | cons x rest ih =>
      have hx := hitems x List.mem_cons_self
      cases rest with
      | nil => simpa using hx
      | cons y rest =>
          have hrest := ih (by simp) fun z hz =>
            hitems z (List.mem_cons_of_mem x hz)
          have hboth := hx.and hrest
          simpa [List.intercalate_cons_cons] using hboth

/-- The alternatives so far, with the factor behind them. -/
theorem exists_whole (before : Option Condition) {c : Condition}
    {p : Truth → Prop}
    (hmeaning : ∀ truth, c.Holds truth ↔ p truth) :
    ∃ d, OpenCondition.whole ⟨before, some c⟩ = some d ∧
      ∀ truth, d.Holds truth ↔ (∃ a ∈ before, a.Holds truth) ∨ p truth := by
  cases before with
  | none => exact ⟨c, rfl, by simpa using hmeaning⟩
  | some a =>
      refine ⟨.or a c, rfl, ?_⟩
      intro truth
      simp [Condition.Holds, hmeaning]

theorem run_alternatives {items : List α} (hsome : items ≠ [])
    (hitems : ∀ x ∈ items, ReadsAs (tokens x) (meaning x))
    (outer : List OpenCondition) (before : Option Condition) :
    ∃ o c,
      run ⟨outer, ⟨before, none⟩, .operand⟩
          ([ConditionToken.or].intercalate (items.map tokens)) =
        some ⟨outer, o, .connective⟩ ∧
      o.whole = some c ∧
      ∀ truth, c.Holds truth ↔
        (∃ a ∈ before, a.Holds truth) ∨ ∃ x ∈ items, meaning x truth := by
  -- What was read before the first item changes from item to item.
  induction items generalizing before with
  | nil => exact absurd rfl hsome
  | cons x rest ih =>
      obtain ⟨c, hrun, hmeaning⟩ :=
        hitems x List.mem_cons_self outer ⟨before, none⟩
      have hfactor : ∀ truth, c.Holds truth ↔ meaning x truth := by
        simpa using hmeaning
      obtain ⟨d, hd, hfirst⟩ := exists_whole before hfactor
      cases rest with
      | nil => exact ⟨_, d, by simpa using hrun, hd, by simpa using hfirst⟩
      | cons y rest =>
          obtain ⟨o, e, hrest, he, hlast⟩ := ih (by simp) (fun z hz =>
            hitems z (List.mem_cons_of_mem x hz)) (some d)
          refine ⟨o, e, ?_, he, ?_⟩
          · rw [List.map_cons, List.map_cons, List.intercalate_cons_cons,
              List.append_assoc, run_append, hrun]
            simp only [Option.bind_some, List.singleton_append, run_cons, step,
              OpenCondition.nextAlternative, hd]
            exact hrest
          · intro truth
            rw [hlast]
            simp [hfirst, or_assoc]

theorem readsAs_disjunction {items : List α} (hsome : items ≠ [])
    (hitems : ∀ x ∈ items, ReadsAs (tokens x) (meaning x)) :
    ReadsAs (.opening ::
        ([ConditionToken.or].intercalate (items.map tokens) ++ [.closing]))
      (fun truth => ∃ x ∈ items, meaning x truth) := by
  apply readsAs_enclosed
  intro outer
  have hrun := run_alternatives hsome hitems outer none
  simpa using hrun

end Lists

end ConditionReader

theorem Condition.exists_read {tokens : List ConditionToken}
    {meaning : Truth → Prop}
    (htokens : ConditionReader.ReadsAs tokens meaning) :
    ∃ c, Condition.read? tokens = some c ∧
      ∀ truth, c.Holds truth ↔ meaning truth := by
  obtain ⟨c, hrun, hmeaning⟩ := htokens [] {}
  refine ⟨c, ?_, by simpa using hmeaning⟩
  have hstart : ConditionReader.run {} tokens = _ := hrun
  rw [Condition.read?, hstart]
  rfl

/-! ## Spelling in parts -/

namespace ConditionToken

/-- Tokens that blanks can surround. -/
structure Solid (tokens : List ConditionToken) : Prop where
  nonempty : tokens ≠ []
  head : tokens.head? ≠ some .closing
  last : tokens.getLast? ≠ some .opening

theorem spell_append {a b : List ConditionToken} (ha : Solid a) (hb : Solid b) :
    spell (a ++ b) = spell a ++ " " ++ spell b := by
  obtain ⟨hnonempty, -, hlast⟩ := ha
  induction a with
  | nil => exact absurd rfl hnonempty
  | cons token rest ih =>
      cases rest with
      | nil =>
          obtain ⟨next, more, rfl⟩ := List.exists_cons_of_ne_nil hb.nonempty
          have hopening : token ≠ .opening := by simpa using hlast
          have hclosing : next ≠ .closing := by simpa using hb.head
          simp [spell, gap, hopening, hclosing]
      | cons next more =>
          have hrest := ih (by simp) (by simpa using hlast)
          rw [List.cons_append] at hrest
          simp only [List.cons_append, spell, hrest, String.append_assoc]

theorem Solid.append {a b : List ConditionToken} (ha : Solid a)
    (hb : Solid b) : Solid (a ++ b) := by
  refine ⟨by simp [ha.nonempty], ?_, ?_⟩
  · obtain ⟨token, rest, rfl⟩ := List.exists_cons_of_ne_nil ha.nonempty
    simpa using ha.head
  · rw [List.getLast?_append, List.getLast?_eq_some_getLast hb.nonempty]
    have hlast := hb.last
    rwa [List.getLast?_eq_some_getLast hb.nonempty] at hlast

theorem solid_singleton {token : ConditionToken} (hopening : token ≠ .opening)
    (hclosing : token ≠ .closing) : Solid [token] :=
  ⟨by simp, by simpa using hclosing, by simpa using hopening⟩

theorem spell_enclosed (tokens : List ConditionToken) :
    spell (.opening :: (tokens ++ [.closing])) = "(" ++ spell tokens ++ ")" := by
  have hclose : ∀ tokens : List ConditionToken,
      spell (tokens ++ [.closing]) = spell tokens ++ ")" := by
    intro tokens
    induction tokens with
    | nil => rfl
    | cons token rest ih =>
        cases rest with
        | nil => simp [spell, gap, text]
        | cons next more =>
            rw [List.cons_append] at ih
            simp only [List.cons_append, spell, ih, String.append_assoc]
  have hopen : ∀ tokens : List ConditionToken, tokens ≠ [] →
      spell (.opening :: tokens) = "(" ++ spell tokens := by
    intro tokens htokens
    obtain ⟨token, rest, rfl⟩ := List.exists_cons_of_ne_nil htokens
    simp [spell, gap, text]
  rw [hopen _ (by simp), hclose, String.append_assoc]

theorem solid_enclosed (tokens : List ConditionToken) :
    Solid (.opening :: (tokens ++ [.closing])) := by
  refine ⟨by simp, by simp, ?_⟩
  rw [← List.cons_append, List.getLast?_append]
  simp

section Lists

variable {α : Type} {tokens : α → List ConditionToken} {items : List α}
  {separator : ConditionToken}

theorem solid_intercalate (hopening : separator ≠ .opening)
    (hclosing : separator ≠ .closing) (hsome : items ≠ [])
    (hitems : ∀ x ∈ items, Solid (tokens x)) :
    Solid ([separator].intercalate (items.map tokens)) := by
  induction items with
  | nil => exact absurd rfl hsome
  | cons x rest ih =>
      have hx := hitems x List.mem_cons_self
      cases rest with
      | nil => simpa using hx
      | cons y rest =>
          have hrest := ih (by simp) fun z hz =>
            hitems z (List.mem_cons_of_mem x hz)
          have hseparator := solid_singleton hopening hclosing
          rw [List.map_cons, List.map_cons, List.intercalate_cons_cons]
          exact (hx.append hseparator).append hrest

/-- Lists of tokens with a connective between neighbours are spelled with the
connective between blanks. -/
theorem spell_intercalate (hopening : separator ≠ .opening)
    (hclosing : separator ≠ .closing) (hitems : ∀ x ∈ items, Solid (tokens x)) :
    spell ([separator].intercalate (items.map tokens)) =
      (" " ++ separator.text ++ " ").intercalate
        (items.map fun x => spell (tokens x)) := by
  induction items with
  | nil => rfl
  | cons x rest ih =>
      have hx := hitems x List.mem_cons_self
      cases rest with
      | nil => simp
      | cons y rest =>
          have hall : ∀ z ∈ y :: rest, Solid (tokens z) := fun z hz =>
            hitems z (List.mem_cons_of_mem x hz)
          have hseparator := solid_singleton hopening hclosing
          have hrest := solid_intercalate hopening hclosing (by simp) hall
          have hspell := ih hall
          rw [List.map_cons] at hrest hspell
          rw [List.map_cons, List.map_cons, List.intercalate_cons_cons,
            spell_append (hx.append hseparator) hrest,
            spell_append hx hseparator, hspell]
          apply String.toList_inj.mp
          simp [spell, String.toList_intercalate]

end Lists

end ConditionToken

end RequestBreakdown
