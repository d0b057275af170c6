import SessionNet.Message
import SessionNet.Text.Utf8

/-!
# The shape of messages

What the formats ask of a message: that its maps are in order, that its texts and collections are
not too long for the length fields, and that it does not nest too deep. The first holds of every
message that was built by insertion. Values are taken apart by one induction
(`Value.nestedInduction`), in which a list or a map is reached from its values. Integers are written
by sign and distance from zero, which determine them.
-/

namespace SessionNet

/-! ## Integers -/

namespace Integer

variable {n : Int64}

theorem toNat_lt (n : Int64) : n.toInt.toNat < Nat.pow 2 63 := by
  have greatest := n.toInt_lt
  rw [Nat.pow_eq]
  omega

theorem natAbs_le (n : Int64) : n.toInt.natAbs ≤ Nat.pow 2 63 := by
  have least := n.le_toInt
  have greatest := n.toInt_lt
  rw [Nat.pow_eq]
  omega

theorem ofNat_toNat (positive : 0 ≤ n.toInt) : Int64.ofNat n.toInt.toNat = n := by
  rw [← Int64.ofInt_eq_ofNat, Int.toNat_of_nonneg positive, Int64.ofInt_toInt]

theorem ofInt_natAbs (negative : ¬0 ≤ n.toInt) : Int64.ofInt (-n.toInt.natAbs) = n := by
  have value : -(n.toInt.natAbs : Int) = n.toInt := by omega
  rw [value, Int64.ofInt_toInt]

end Integer

/-! ## Entries in order -/

namespace Entries

variable {entries before rest : Entries} {key : String} {value : Value}

/-- Only neighbours are compared. -/
instance decidableAscending : (entries : Entries) → Decidable (Ascending entries)
  | [] | [_] => inferInstanceAs (Decidable True)
  | (k, _) :: (k', v') :: rest =>
    have : Decidable (Ascending ((k', v') :: rest)) := decidableAscending ((k', v') :: rest)
    inferInstanceAs (Decidable (k < k' ∧ Ascending ((k', v') :: rest)))

theorem ascending_iff_pairwise :
    Ascending entries ↔ entries.Pairwise fun entry later => entry.1 < later.1 := by
  induction entries with
  | nil => simp [Ascending]
  | cons entry rest ih =>
    cases rest with
    | nil => simp [Ascending]
    | cons next rest =>
      rw [Ascending, ih, List.pairwise_cons (a := entry)]
      constructor
      · rintro ⟨less, ascending⟩
        refine ⟨?_, ascending⟩
        intro later hmem
        rcases List.mem_cons.1 hmem with rfl | hmem
        · exact less
        · exact String.lt_trans less (List.rel_of_pairwise_cons ascending hmem)
      · rintro ⟨least, ascending⟩
        exact ⟨least next List.mem_cons_self, ascending⟩

/-- A key beyond all others comes last. -/
theorem insert_of_greatest (greatest : ∀ entry ∈ entries, entry.1 < key) :
    insert key value entries = entries ++ [(key, value)] := by
  induction entries with
  | nil => rfl
  | cons entry rest ih =>
    have less : entry.1 < key := greatest entry List.mem_cons_self
    have different : key ≠ entry.1 := by
      rintro rfl
      exact String.lt_irrefl _ less
    rw [insert, if_neg (String.lt_asymm less), if_neg different,
      ih fun later hmem => greatest later (List.mem_cons_of_mem _ hmem)]
    rfl

/-- Entries that are read in order are inserted one behind the other. -/
theorem insert_of_ascending (ascending : Ascending (before ++ (key, value) :: rest)) :
    insert key value before = before ++ [(key, value)] := by
  have ordered := List.pairwise_append.1 (ascending_iff_pairwise.1 ascending)
  apply insert_of_greatest
  intro entry hmem
  exact ordered.2.2 entry hmem (key, value) List.mem_cons_self

theorem mem_insert {entry : String × Value} (h : entry ∈ insert key value entries) :
    entry = (key, value) ∨ entry ∈ entries := by
  induction entries with
  | nil => exact .inl (List.mem_singleton.1 h)
  | cons first rest ih =>
    rw [insert] at h
    split at h
    · exact List.mem_cons.1 h
    · split at h
      · exact (List.mem_cons.1 h).imp_right (List.mem_cons_of_mem _)
      · rcases List.mem_cons.1 h with rfl | h
        · exact .inr List.mem_cons_self
        · exact (ih h).imp_right (List.mem_cons_of_mem _)

/-- Insertion keeps the order. -/
theorem Ascending.insert (ascending : Ascending entries) (key : String) (value : Value) :
    Ascending (Entries.insert key value entries) := by
  rw [ascending_iff_pairwise] at ascending ⊢
  induction entries with
  | nil => exact List.pairwise_singleton _ _
  | cons first rest ih =>
    obtain ⟨least, ordered⟩ := List.pairwise_cons.1 ascending
    rw [Entries.insert]
    by_cases less : key < first.1
    · rw [if_pos less]
      refine List.pairwise_cons.2 ⟨?_, ascending⟩
      intro later hmem
      rcases List.mem_cons.1 hmem with rfl | hmem
      · exact less
      · exact String.lt_trans less (least later hmem)
    · rw [if_neg less]
      by_cases same : key = first.1
      · rw [if_pos same, same]
        exact List.pairwise_cons.2 ⟨least, ordered⟩
      · rw [if_neg same]
        refine List.pairwise_cons.2 ⟨?_, ih ordered⟩
        intro later hmem
        rcases mem_insert hmem with rfl | hmem
        · apply Decidable.byContradiction
          intro notGreater
          exact same (String.le_antisymm (String.not_lt.1 notGreater) (String.not_lt.1 less))
        · exact least later hmem

end Entries

/-! ## Values and their parts -/

namespace Value

mutual

/-- A value and all values in it. -/
def parts : Value → List Value
  | .list items => .list items :: partsOfItems items
  | .map entries => .map entries :: partsOfEntries entries
  | v => [v]

def partsOfItems : List Value → List Value
  | [] => []
  | v :: vs => v.parts ++ partsOfItems vs

def partsOfEntries : List (String × Value) → List Value
  | [] => []
  | (_, v) :: rest => v.parts ++ partsOfEntries rest

end

mutual

/-- How many lists and maps are nested in each other, at most. -/
def nesting : Value → Nat
  | .list items => nestingOfItems items + 1
  | .map entries => nestingOfEntries entries + 1
  | _ => 0

def nestingOfItems : List Value → Nat
  | [] => 0
  | v :: vs => max v.nesting (nestingOfItems vs)

def nestingOfEntries : List (String × Value) → Nat
  | [] => 0
  | (_, v) :: rest => max v.nesting (nestingOfEntries rest)

end

/-- Induction over values, with the items of a list and the entries of a map given by membership. -/
@[elab_as_elim]
theorem nestedInduction {motive : Value → Prop} (null : motive .null)
    (bool : ∀ b, motive (.bool b)) (int : ∀ n, motive (.int n))
    (float : ∀ bits, motive (.float bits)) (text : ∀ s, motive (.text s))
    (bytes : ∀ bs, motive (.bytes bs))
    (list : ∀ items, (∀ v ∈ items, motive v) → motive (.list items))
    (map : ∀ entries, (∀ entry ∈ entries, motive entry.2) → motive (.map entries)) (v : Value) :
    motive v :=
  @Value.rec motive (fun items => ∀ v ∈ items, motive v)
    (fun entries => ∀ entry ∈ entries, motive entry.2) (fun entry => motive entry.2)
    null bool int float text bytes list map
    (fun _ hmem => nomatch hmem)
    (fun _ _ first others => List.forall_mem_cons.2 ⟨first, others⟩)
    (fun _ hmem => nomatch hmem)
    (fun _ _ first others => List.forall_mem_cons.2 ⟨first, others⟩)
    (fun _ _ value => value) v

variable {v : Value} {items : List Value} {entries : Entries} {entry : String × Value}

theorem self_mem_parts (v : Value) : v ∈ v.parts := by
  cases v <;> simp [parts]

theorem mem_partsOfItems {part : Value} :
    part ∈ partsOfItems items ↔ ∃ v ∈ items, part ∈ v.parts := by
  induction items with
  | nil => simp [partsOfItems]
  | cons v vs ih => simp [partsOfItems, ih]

theorem mem_partsOfEntries {part : Value} :
    part ∈ partsOfEntries entries ↔ ∃ entry ∈ entries, part ∈ entry.2.parts := by
  induction entries with
  | nil => simp [partsOfEntries]
  | cons entry rest ih => simp [partsOfEntries, ih]

theorem parts_subset_list (hmem : v ∈ items) : v.parts ⊆ (Value.list items).parts := by
  intro part hpart
  exact List.mem_cons_of_mem _ (mem_partsOfItems.2 ⟨v, hmem, hpart⟩)

theorem parts_subset_map (hmem : entry ∈ entries) : entry.2.parts ⊆ (Value.map entries).parts := by
  intro part hpart
  exact List.mem_cons_of_mem _ (mem_partsOfEntries.2 ⟨entry, hmem, hpart⟩)

/-! ## What formats ask of values -/

/-- Something holds of a value and of all values in it. -/
def AllParts (P : Value → Prop) (v : Value) : Prop := ∀ part ∈ v.parts, P part

instance (P : Value → Prop) [DecidablePred P] (v : Value) : Decidable (v.AllParts P) :=
  inferInstanceAs (Decidable (∀ part ∈ v.parts, P part))

section

variable {P : Value → Prop}

theorem AllParts.here (all : v.AllParts P) : P v := all v (self_mem_parts v)

theorem AllParts.of_mem_list (all : (Value.list items).AllParts P) (hmem : v ∈ items) :
    v.AllParts P :=
  fun part hpart => all part (parts_subset_list hmem hpart)

theorem AllParts.of_mem_map (all : (Value.map entries).AllParts P) (hmem : entry ∈ entries) :
    entry.2.AllParts P :=
  fun part hpart => all part (parts_subset_map hmem hpart)

theorem allParts_map (here : P (.map entries)) (values : ∀ entry ∈ entries, entry.2.AllParts P) :
    (Value.map entries).AllParts P := by
  intro part hpart
  rcases List.mem_cons.1 hpart with rfl | hpart
  · exact here
  · obtain ⟨entry, hmem, hpart⟩ := mem_partsOfEntries.1 hpart
    exact values entry hmem part hpart

end

/-- A value's own keys are in ascending order. -/
def InOrder : Value → Prop
  | .map entries => Entries.Ascending entries
  | _ => True

/-- A value's own texts and collections are shorter than `limit`. -/
def Short (limit : Nat) : Value → Prop
  | .text s => (Text.utf8 s).length < limit
  | .bytes bs => bs.length < limit
  | .list items => items.length < limit
  | .map entries =>
    entries.length < limit ∧ ∀ entry ∈ entries, (Text.utf8 entry.1).length < limit
  | _ => True

def isFloat : Value → Bool
  | .float _ => true
  | _ => false

instance : DecidablePred InOrder
  | .map entries => inferInstanceAs (Decidable (Entries.Ascending entries))
  | .null | .bool _ | .int _ | .float _ | .text _ | .bytes _ | .list _ =>
    inferInstanceAs (Decidable True)

instance (limit : Nat) : DecidablePred (Short limit)
  | .text s => inferInstanceAs (Decidable ((Text.utf8 s).length < limit))
  | .bytes bs => inferInstanceAs (Decidable (bs.length < limit))
  | .list items => inferInstanceAs (Decidable (items.length < limit))
  | .map entries => inferInstanceAs (Decidable
      (entries.length < limit ∧ ∀ entry ∈ entries, (Text.utf8 entry.1).length < limit))
  | .null | .bool _ | .int _ | .float _ => inferInstanceAs (Decidable True)

/-- All maps are in ascending order of their keys. -/
abbrev Ordered (v : Value) : Prop := v.AllParts InOrder

/-- All texts and collections are shorter than `limit`. -/
abbrev SizesBelow (limit : Nat) (v : Value) : Prop := v.AllParts (Short limit)

/-- There are no floating-point numbers. -/
abbrev FloatFree (v : Value) : Prop := v.AllParts fun part => part.isFloat = false

end Value

/-! ## Messages as values -/

namespace Message

variable {m : Message}

/-- A message is a map. -/
def asValue (m : Message) : Value := .map m.entries

abbrev Ordered (m : Message) : Prop := m.asValue.Ordered

abbrev SizesBelow (limit : Nat) (m : Message) : Prop := m.asValue.SizesBelow limit

abbrev FloatFree (m : Message) : Prop := m.asValue.FloatFree

/-- How many lists and maps are nested in a value of the message, at most. -/
def nesting (m : Message) : Nat := Value.nestingOfEntries m.entries

theorem ordered_empty : empty.Ordered := Value.allParts_map trivial (by simp [empty])

/-- Setting a key keeps a message in order. -/
theorem Ordered.insert (ordered : m.Ordered) {value : Value} (hvalue : value.Ordered)
    (key : String) : (m.insert key value).Ordered := by
  have ascending : Entries.Ascending m.entries := ordered.here
  refine Value.allParts_map (ascending.insert key value) ?_
  intro entry hmem
  rcases Entries.mem_insert hmem with rfl | hmem
  · exact hvalue
  · exact Value.AllParts.of_mem_map ordered hmem

/-- What is built by insertion is in order. -/
theorem ordered_ofList {pairs : List (String × Value)} (values : ∀ pair ∈ pairs, pair.2.Ordered) :
    (ofList pairs).Ordered := by
  have built (m : Message) (ordered : m.Ordered) :
      (Message.mk (pairs.foldl (fun entries pair => Entries.insert pair.1 pair.2 entries)
        m.entries)).Ordered := by
    induction pairs generalizing m with
    | nil => exact ordered
    | cons pair pairs ih =>
      exact ih (fun pair hmem => values pair (List.mem_cons_of_mem _ hmem)) (m.insert pair.1 pair.2)
        (ordered.insert (values pair List.mem_cons_self) pair.1)
  exact built empty ordered_empty

end Message

end SessionNet
