import RequestBreakdown.Proofs.Sql.Lexeme

/-!
# Texts that differ in their values only

Two texts run in parallel when they are read as the same lexemes but for some
literals, which hold the values that each text was made with.  Which value
stands where is the same in both; the positions of the values, in the order of
reading, are part of the relation.  Parallel texts stay parallel when they are
put together, as long as no quote meets another at the seam.
-/

namespace RequestBreakdown

/-- A lexeme, or the place of a literal that holds one of numbered values. -/
inductive Slot where
  | fixed (x : Lexeme)
  | value (position : Nat)
  deriving DecidableEq, Repr

namespace Slot

def fill (values : Nat → String) : Slot → Lexeme
  | .fixed x => x
  | .value position => .literal (values position).toList

def position? : Slot → Option Nat
  | .fixed _ => none
  | .value position => some position

def positions (slots : List Slot) : List Nat := slots.filterMap position?

@[simp] theorem positions_append (slots more : List Slot) :
    positions (slots ++ more) = positions slots ++ positions more :=
  List.filterMap_append

@[simp] theorem positions_fixed (xs : List Lexeme) :
    positions (xs.map .fixed) = [] := by
  induction xs with
  | nil => rfl
  | cons x rest ih => simp [positions, position?]

@[simp] theorem map_fill_fixed (values : Nat → String) (xs : List Lexeme) :
    (xs.map Slot.fixed).map (fill values) = xs := by
  rw [List.map_map]
  exact List.map_id xs

theorem blank_fill (u v : Nat → String) (slot : Slot) :
    (slot.fill u).blank = (slot.fill v).blank := by
  cases slot <;> rfl

end Slot

namespace Lexeme

/-- Two texts are made in the same way with the values `u` and `v`, which stand
in them in the given order. -/
structure Parallel (u v : Nat → String) (order : List Nat)
    (a b : List Char) : Prop where
  closedLeft : Closed a
  closedRight : Closed b
  slots : ∃ slots : List Slot,
    read a = slots.map (Slot.fill u) ∧ read b = slots.map (Slot.fill v) ∧
      Slot.positions slots = order

/-- A text that can stand between any others: it leaves no literal open and
neither begins nor ends with a quote. -/
def Bare (cs : List Char) : Prop :=
  cs ≠ [] ∧ Closed cs ∧ cs.head? ≠ some '\'' ∧ cs.getLast? ≠ some '\''

instance (cs : List Char) : Decidable (Bare cs) :=
  inferInstanceAs (Decidable (_ ∧ _ ∧ _ ∧ _))

theorem Bare.closed {t : List Char} (ht : Bare t) : Closed t := ht.2.1

theorem Bare.apart_append {t : List Char} (ht : Bare t) (a b : List Char) :
    Apart a (t ++ b) := by
  obtain ⟨hne, -, hhead, -⟩ := ht
  right
  cases t with
  | nil => exact absurd rfl hne
  | cons c rest => simpa using hhead

theorem Bare.apart {t : List Char} (ht : Bare t) (b : List Char) : Apart t b :=
  .inl ht.2.2.2

theorem Apart.left_of_bare {t : List Char} (ht : Bare t) (a : List Char) :
    Apart a t :=
  .inr ht.2.2.1

theorem bare_of_noQuote {cs : List Char} (hne : cs ≠ []) (hcs : '\'' ∉ cs) :
    Bare cs := by
  refine ⟨hne, closed_of_noQuote hcs, ?_, ?_⟩
  · intro hhead
    exact hcs (List.mem_of_mem_head? hhead)
  · intro hlast
    exact hcs (List.mem_of_mem_getLast? hlast)

private theorem getLast?_append_right (a : List Char) {b : List Char}
    (hb : b ≠ []) : (a ++ b).getLast? = b.getLast? := by
  rw [List.getLast?_append, List.getLast?_eq_some_getLast hb]
  rfl

theorem Bare.append {a b : List Char} (ha : Bare a) (hb : Bare b) :
    Bare (a ++ b) := by
  obtain ⟨hne, hclosed, hhead, hlast⟩ := ha
  obtain ⟨hne', hclosed', -, hlast'⟩ := hb
  refine ⟨by simp [hne], hclosed.append hclosed' (.inl hlast), ?_, ?_⟩
  · cases a with
    | nil => exact absurd rfl hne
    | cons c rest => simpa using hhead
  · rwa [getLast?_append_right a hne']

theorem Bare.between {a t b : List Char} (ha : Bare a) (ht : Closed t)
    (hb : Bare b) : Bare (a ++ (t ++ b)) := by
  obtain ⟨hne, hclosed, hhead, hlast⟩ := ha
  obtain ⟨hne', hclosed', hhead', hlast'⟩ := hb
  have hinner : Closed (t ++ b) := ht.append hclosed' (.inr hhead')
  refine ⟨by simp [hne], hclosed.append hinner (.inl hlast), ?_, ?_⟩
  · cases a with
    | nil => exact absurd rfl hne
    | cons c rest => simpa using hhead
  · rwa [← List.append_assoc, getLast?_append_right (a ++ t) hne']

namespace Parallel

variable {u v : Nat → String} {order more : List Nat} {a b c d : List Char}

theorem refl (ha : Closed a) : Parallel u v [] a a :=
  ⟨ha, ha, (read a).map .fixed, (Slot.map_fill_fixed u _).symm,
    (Slot.map_fill_fixed v _).symm, Slot.positions_fixed _⟩

theorem append (hab : Parallel u v order a b) (hcd : Parallel u v more c d)
    (hleft : Apart a c) (hright : Apart b d) :
    Parallel u v (order ++ more) (a ++ c) (b ++ d) := by
  obtain ⟨slots, ha, hb, horder⟩ := hab.slots
  obtain ⟨rest, hc, hd, hmore⟩ := hcd.slots
  refine ⟨hab.closedLeft.append hcd.closedLeft hleft,
    hab.closedRight.append hcd.closedRight hright, slots ++ rest, ?_, ?_, ?_⟩
  · rw [read_append hab.closedLeft hleft, ha, hc, List.map_append]
  · rw [read_append hab.closedRight hright, hb, hd, List.map_append]
  · rw [Slot.positions_append, horder, hmore]

theorem nil_iff (hab : Parallel u v order a b) : a = [] ↔ b = [] := by
  obtain ⟨slots, ha, hb, -⟩ := hab.slots
  rw [← read_eq_nil, ← read_eq_nil, ha, hb, List.map_eq_nil_iff,
    List.map_eq_nil_iff]

theorem order_nil (hab : Parallel u v order [] b) : order = [] := by
  obtain ⟨slots, ha, -, horder⟩ := hab.slots
  have hslots : slots = [] := List.map_eq_nil_iff.mp ha.symm
  rw [← horder, hslots]
  rfl

theorem cons_bare {t : List Char} (ht : Bare t)
    (hab : Parallel u v order a b) :
    Parallel u v order (t ++ a) (t ++ b) :=
  (refl ht.closed).append hab (ht.apart a) (ht.apart b)

theorem append_bare {t : List Char} (hab : Parallel u v order a b)
    (ht : Bare t) (hcd : Parallel u v more c d) :
    Parallel u v (order ++ more) (a ++ (t ++ c)) (b ++ (t ++ d)) :=
  hab.append (hcd.cons_bare ht) (ht.apart_append a c) (ht.apart_append b d)

theorem concat_bare {t : List Char} (hab : Parallel u v order a b)
    (ht : Bare t) : Parallel u v order (a ++ t) (b ++ t) := by
  simpa using hab.append (refl ht.closed)
    (Apart.left_of_bare ht a) (Apart.left_of_bare ht b)

theorem quote (position : Nat) :
    Parallel u v [position] (Literal.quote (u position)).toList
      (Literal.quote (v position)).toList :=
  ⟨closed_quote _, closed_quote _, [.value position],
    read_quote _, read_quote _, rfl⟩

theorem intercalate {α : Type} {separator : List Char}
    (hseparator : Bare separator) (items : List α)
    (left right : α → List Char) (order : α → List Nat)
    (hitems : ∀ x ∈ items, Parallel u v (order x) (left x) (right x)) :
    Parallel u v (items.flatMap order)
      (separator.intercalate (items.map left))
      (separator.intercalate (items.map right)) := by
  induction items with
  | nil => exact refl rfl
  | cons x rest ih =>
      have hx := hitems x List.mem_cons_self
      have hrest := ih fun y hy => hitems y (List.mem_cons_of_mem x hy)
      cases rest with
      | nil => simpa using hx
      | cons y rest =>
          simpa [List.intercalate_cons_cons] using hx.append_bare hseparator hrest

end Parallel

theorem Closed.intercalate {α : Type} {separator : List Char}
    (hseparator : Bare separator) {items : List α} {text : α → List Char}
    (hitems : ∀ x ∈ items, Closed (text x)) :
    Closed (separator.intercalate (items.map text)) := by
  have hparallel := Parallel.intercalate (u := fun _ => "") (v := fun _ => "")
    hseparator items text text (fun _ => []) fun x hx => .refl (hitems x hx)
  exact hparallel.closedLeft

theorem Parallel.skeleton_eq {u v : Nat → String} {order : List Nat}
    {s t : String} (h : Parallel u v order s.toList t.toList) :
    skeleton s = skeleton t := by
  obtain ⟨slots, hs, ht, -⟩ := h.slots
  unfold skeleton
  rw [hs, ht, List.map_map, List.map_map]
  exact List.map_congr_left fun slot _ => Slot.blank_fill u v slot

end Lexeme

end RequestBreakdown
