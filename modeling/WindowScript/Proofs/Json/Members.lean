/-
# The members of an object

An object is given as a list of keys with values, in which a key may come more than once.
What is written of it is said here on its own. Every key is written once, with the last
value that was given for it. Keys that are array indices come first, from small to large,
and the other keys follow in the order in which they were given first.
-/

import Mathlib.Data.List.Induction
import WindowScript.Proofs.Json.OneLine

namespace WindowScript.Json

/-! ## What is asked for -/

/-- The last value that is given for a key. -/
def lastGiven? {α : Type} (pairs : List (String × α)) (key : String) : Option α :=
  pairs.reverse.lookup key

/-- A key that is an array index: the decimal digits of a number below `2 ^ 32 - 1`. -/
def IsIndex (key : String) (n : Nat) : Prop := n < 4294967295 ∧ key = toString n

/-- A key that is no array index. -/
def IsPlainKey (key : String) : Prop := ∀ n, ¬ IsIndex key n

/-- The keys of an object as they are written: array indices from small to large, then
the other keys in the order in which they were given first. -/
structure Arranged (given indices others : List String) : Prop where
  mem_indices : ∀ key, key ∈ indices ↔ key ∈ given ∧ ∃ n, IsIndex key n
  ascending : indices.Pairwise fun key later => ∃ m n, IsIndex key m ∧ IsIndex later n ∧ m < n
  mem_others : ∀ key, key ∈ others ↔ key ∈ given ∧ IsPlainKey key
  in_order : others.Pairwise fun key later => given.idxOf key < given.idxOf later

/-! ## Array indices -/

theorem index?_eq_some_iff {key : String} {n : Nat} : index? key = some n ↔ IsIndex key n := by
  have htext : key = toString n ↔ Number.digits n = key.toList := by
    rw [← String.toList_inj, eq_comm]
    have hdigits : (toString n).toList = Number.digits n := String.toList_ofList
    rw [hdigits]
  unfold index? IsIndex
  dsimp only
  rw [Option.ite_none_right_eq_some, htext]
  constructor
  · rintro ⟨⟨-, hle, hdigits⟩, hn⟩
    rw [Option.some.injEq] at hn
    rw [hn] at hle hdigits
    exact ⟨Nat.lt_succ_of_le hle, hdigits⟩
  · rintro ⟨hlt, hdigits⟩
    have hvalue : Number.valueOfDigits key.toList = n := by
      rw [← hdigits, Number.valueOfDigits_digits]
    have hall : key.toList.all Char.isDigit := by
      rw [← hdigits, List.all_eq_true]
      exact fun c hc => Nat.isDigit_of_mem_toDigits (by decide) (by decide) hc
    rw [hvalue]
    exact ⟨⟨hall, Nat.le_of_lt_succ hlt, hdigits⟩, rfl⟩

theorem index?_eq_none_iff {key : String} : index? key = none ↔ IsPlainKey key := by
  simp only [Option.eq_none_iff_forall_ne_some, ne_eq, index?_eq_some_iff]
  rfl

theorem IsIndex.eq {key other : String} {n : Nat} (hkey : IsIndex key n)
    (hother : IsIndex other n) : key = other :=
  hkey.2.trans hother.2.symm

theorem IsIndex.number_eq {key : String} {m n : Nat} (hm : IsIndex key m) (hn : IsIndex key n) :
    m = n :=
  Option.some.inj ((index?_eq_some_iff.mpr hm).symm.trans (index?_eq_some_iff.mpr hn))

theorem isIndex_or_isPlainKey (key : String) : (∃ n, IsIndex key n) ∨ IsPlainKey key :=
  (Classical.em _).imp_right not_exists.mp

/-- No key is written twice. -/
theorem Arranged.nodup {given indices others : List String}
    (harranged : Arranged given indices others) : (indices ++ others).Nodup := by
  have hindices : indices.Nodup := by
    apply harranged.ascending.imp
    rintro key later ⟨m, n, hm, hn, hlt⟩ rfl
    exact Nat.ne_of_lt hlt (hm.number_eq hn)
  have hothers : others.Nodup := by
    apply harranged.in_order.imp
    rintro key later hlt rfl
    exact Nat.lt_irrefl _ hlt
  refine List.nodup_append.mpr ⟨hindices, hothers, ?_⟩
  rintro key hindex other hplain rfl
  obtain ⟨n, hn⟩ := ((harranged.mem_indices key).mp hindex).2
  exact ((harranged.mem_others key).mp hplain).2 n hn

/-- There is only one way to write keys. -/
theorem Arranged.unique {given indices indices' others others' : List String}
    (harranged : Arranged given indices others) (harranged' : Arranged given indices' others') :
    indices = indices' ∧ others = others' := by
  obtain ⟨hindices, hothers, -⟩ := List.nodup_append.mp harranged.nodup
  obtain ⟨hindices', hothers', -⟩ := List.nodup_append.mp harranged'.nodup
  constructor
  · apply List.Perm.eq_of_pairwise _ harranged.ascending harranged'.ascending
    · rw [List.perm_ext_iff_of_nodup hindices hindices']
      exact fun key => (harranged.mem_indices key).trans (harranged'.mem_indices key).symm
    · rintro key later - - ⟨m, n, hm, hn, hlt⟩ ⟨n', m', hn', hm', hgt⟩
      rw [hm.number_eq hm', hn.number_eq hn'] at hlt
      exact absurd hlt (Nat.lt_asymm hgt)
  · apply List.Perm.eq_of_pairwise _ harranged.in_order harranged'.in_order
    · rw [List.perm_ext_iff_of_nodup hothers hothers']
      exact fun key => (harranged.mem_others key).trans (harranged'.mem_others key).symm
    · intro key later _ _ hlt hgt
      exact absurd hlt (Nat.lt_asymm hgt)

/-- Every key that was given is written. -/
theorem Arranged.mem_append_iff {given indices others : List String}
    (harranged : Arranged given indices others) {key : String} :
    key ∈ indices ++ others ↔ key ∈ given := by
  rw [List.mem_append, harranged.mem_indices, harranged.mem_others, ← and_or_left,
    and_iff_left_iff_imp]
  exact fun _ => isIndex_or_isPlainKey key

section

variable {α : Type}

/-! ## Last values -/

theorem lastGiven?_concat (pairs : List (String × α)) (pair : String × α) (key : String) :
    lastGiven? (pairs ++ [pair]) key =
      if key = pair.1 then some pair.2 else lastGiven? pairs key := by
  obtain ⟨name, value⟩ := pair
  simp only [lastGiven?, List.reverse_append, List.reverse_singleton, List.singleton_append,
    List.lookup_cons]
  by_cases hkey : key = name
  · simp [hkey]
  · rw [beq_false_of_ne hkey, if_neg hkey]

theorem lastGiven?_cons (pair : String × α) (pairs : List (String × α)) (key : String) :
    lastGiven? (pair :: pairs) key =
      (lastGiven? pairs key).or (if key = pair.1 then some pair.2 else none) := by
  have hsingle : lastGiven? [pair] key = if key = pair.1 then some pair.2 else none :=
    lastGiven?_concat [] pair key
  rw [← hsingle, lastGiven?, List.reverse_cons, List.lookup_append]
  rfl

theorem lastGiven?_isSome_iff {pairs : List (String × α)} {key : String} :
    (lastGiven? pairs key).isSome = true ↔ key ∈ pairs.map Prod.fst := by
  induction pairs using List.reverseRecOn with
  | nil => simp [lastGiven?]
  | append_singleton pairs pair ih =>
      rw [lastGiven?_concat]
      by_cases hkey : key = pair.1 <;> simp [hkey, ih]

theorem lastGiven?_map {β : Type} (f : α → β) (pairs : List (String × α)) (key : String) :
    lastGiven? (pairs.map fun pair => (pair.1, f pair.2)) key = (lastGiven? pairs key).map f := by
  induction pairs using List.reverseRecOn with
  | nil => rfl
  | append_singleton pairs pair ih =>
      rw [List.map_append, List.map_singleton, lastGiven?_concat, lastGiven?_concat, ih,
        apply_ite (Option.map f)]
      rfl

theorem lastGiven?_eq_none {pairs : List (String × α)} {key : String}
    (hkey : key ∉ pairs.map Prod.fst) : lastGiven? pairs key = none :=
  Option.not_isSome_iff_eq_none.mp (mt lastGiven?_isSome_iff.mp hkey)

/-! ## One member for each key -/

theorem keys_put (key : String) (value : α) (members : List (String × α)) :
    (put key value members).map Prod.fst =
      if key ∈ members.map Prod.fst then members.map Prod.fst
      else members.map Prod.fst ++ [key] := by
  induction members with
  | nil => rfl
  | cons member members ih =>
      rw [put]
      by_cases hkey : member.1 = key
      · simp [hkey]
      · rw [if_neg hkey, List.map_cons, ih]
        by_cases hlater : key ∈ members.map Prod.fst <;> simp [hlater, Ne.symm hkey]

/-- A key that is put gets the value, and all other members stay. -/
theorem mem_put_iff {members : List (String × α)} (hnodup : (members.map Prod.fst).Nodup)
    {key : String} {value : α} {member : String × α} :
    member ∈ put key value members ↔
      member = (key, value) ∨ (member.1 ≠ key ∧ member ∈ members) := by
  induction members with
  | nil => simp [put]
  | cons first members ih =>
      rw [List.map_cons, List.nodup_cons] at hnodup
      obtain ⟨hfresh, hnodup⟩ := hnodup
      rw [put]
      by_cases hkey : first.1 = key
      · have hother : member ∈ members → member.1 ≠ key := by
          intro hmem heq
          exact hfresh (hkey.trans heq.symm ▸ List.mem_map_of_mem hmem)
        rw [if_pos hkey, List.mem_cons, List.mem_cons]
        grind
      · rw [if_neg hkey, List.mem_cons, List.mem_cons, ih hnodup]
        grind

theorem collapse_concat (pairs : List (String × α)) (pair : String × α) :
    collapse (pairs ++ [pair]) = put pair.1 pair.2 (collapse pairs) := by
  rw [collapse, List.foldl_append]
  rfl

theorem mem_keys_collapse {pairs : List (String × α)} {key : String} :
    key ∈ (collapse pairs).map Prod.fst ↔ key ∈ pairs.map Prod.fst := by
  induction pairs using List.reverseRecOn with
  | nil => rfl
  | append_singleton pairs pair ih =>
      rw [collapse_concat, keys_put, List.map_append, List.mem_append, ← ih]
      split
      next hknown =>
          rw [List.map_singleton, List.mem_singleton, iff_self_or]
          rintro rfl
          exact hknown
      next => simp

/-- Keys keep the order in which they were given first. -/
theorem pairwise_keys_collapse (pairs : List (String × α)) :
    ((collapse pairs).map Prod.fst).Pairwise fun key later =>
      (pairs.map Prod.fst).idxOf key < (pairs.map Prod.fst).idxOf later := by
  induction pairs using List.reverseRecOn with
  | nil => exact .nil
  | append_singleton pairs pair ih =>
      have hold {key : String} (hkey : key ∈ (collapse pairs).map Prod.fst) :
          ((pairs ++ [pair]).map Prod.fst).idxOf key = (pairs.map Prod.fst).idxOf key := by
        rw [List.map_append, List.idxOf_append, if_pos (mem_keys_collapse.mp hkey)]
      have hkept : ((collapse pairs).map Prod.fst).Pairwise fun key later =>
          ((pairs ++ [pair]).map Prod.fst).idxOf key <
            ((pairs ++ [pair]).map Prod.fst).idxOf later := by
        apply ih.imp_of_mem
        intro key later hkey hlater hlt
        rwa [hold hkey, hold hlater]
      rw [collapse_concat, keys_put]
      split
      · exact hkept
      next hnew =>
          refine List.pairwise_append.mpr ⟨hkept, List.pairwise_singleton _ _, ?_⟩
          intro key hkey later hlater
          obtain rfl := List.mem_singleton.mp hlater
          have hfresh : pair.1 ∉ pairs.map Prod.fst := fun hmem => hnew (mem_keys_collapse.mpr hmem)
          rw [hold hkey, List.map_append, List.idxOf_append, if_neg hfresh]
          exact Nat.lt_add_left _ (List.idxOf_lt_length_iff.mpr (mem_keys_collapse.mp hkey))

theorem nodup_keys_collapse (pairs : List (String × α)) :
    ((collapse pairs).map Prod.fst).Nodup := by
  rw [List.nodup_iff_pairwise_ne]
  apply (pairwise_keys_collapse pairs).imp
  intro key later hlt heq
  exact absurd hlt (by rw [heq]; exact Nat.lt_irrefl _)

/-- The member of a key has the value that was given last. -/
theorem mem_collapse_iff {pairs : List (String × α)} {member : String × α} :
    member ∈ collapse pairs ↔ lastGiven? pairs member.1 = some member.2 := by
  induction pairs using List.reverseRecOn with
  | nil => simp [collapse, lastGiven?]
  | append_singleton pairs pair ih =>
      obtain ⟨key, value⟩ := member
      obtain ⟨name, last⟩ := pair
      rw [collapse_concat, mem_put_iff (nodup_keys_collapse pairs), ih, lastGiven?_concat]
      by_cases hkey : key = name
      · simp [hkey, eq_comm]
      · simp [hkey]

/-! ## The order of members -/

/-- The members that are array indices, with their numbers. -/
def indexed (pairs : List (String × α)) : List (Nat × String × α) :=
  (collapse pairs).filterMap fun member => (index? member.1).map fun n => (n, member)

/-- The array indices of an object, from small to large. -/
def sortedIndices (pairs : List (String × α)) : List (String × α) :=
  ((indexed pairs).mergeSort fun a b => a.1 ≤ b.1).map Prod.snd

/-- The other members of an object. -/
def plainMembers (pairs : List (String × α)) : List (String × α) :=
  (collapse pairs).filter fun member => (index? member.1).isNone

theorem arrange_eq (pairs : List (String × α)) :
    arrange pairs = sortedIndices pairs ++ plainMembers pairs := rfl

theorem mem_indexed_iff {pairs : List (String × α)} {n : Nat} {member : String × α} :
    (n, member) ∈ indexed pairs ↔ member ∈ collapse pairs ∧ IsIndex member.1 n := by
  simp only [indexed, List.mem_filterMap, Option.map_eq_some_iff, Prod.mk.injEq,
    index?_eq_some_iff]
  constructor
  · rintro ⟨found, hfound, number, hnumber, rfl, rfl⟩
    exact ⟨hfound, hnumber⟩
  · rintro ⟨hmember, hn⟩
    exact ⟨member, hmember, n, hn, rfl, rfl⟩

theorem mem_sortedIndices_iff {pairs : List (String × α)} {member : String × α} :
    member ∈ sortedIndices pairs ↔ member ∈ collapse pairs ∧ ∃ n, IsIndex member.1 n := by
  simp only [sortedIndices, List.mem_map, List.mem_mergeSort]
  constructor
  · rintro ⟨⟨n, found⟩, hfound, rfl⟩
    obtain ⟨hmem, hn⟩ := mem_indexed_iff.mp hfound
    exact ⟨hmem, n, hn⟩
  · rintro ⟨hmem, n, hn⟩
    exact ⟨(n, member), mem_indexed_iff.mpr ⟨hmem, hn⟩, rfl⟩

theorem mem_plainMembers_iff {pairs : List (String × α)} {member : String × α} :
    member ∈ plainMembers pairs ↔ member ∈ collapse pairs ∧ IsPlainKey member.1 := by
  rw [plainMembers, List.mem_filter, Option.isNone_iff_eq_none, index?_eq_none_iff]

/-- Members are written as they were collected. -/
theorem mem_arrange_iff {pairs : List (String × α)} {member : String × α} :
    member ∈ arrange pairs ↔ lastGiven? pairs member.1 = some member.2 := by
  rw [arrange_eq, List.mem_append, mem_sortedIndices_iff, mem_plainMembers_iff, ← and_or_left,
    mem_collapse_iff, and_iff_left_iff_imp]
  exact fun _ => isIndex_or_isPlainKey member.1

theorem mem_of_lastGiven? {pairs : List (String × α)} {key : String} {value : α}
    (hlast : lastGiven? pairs key = some value) : (key, value) ∈ pairs :=
  mem_of_mem_arrange (mem_arrange_iff.mpr hlast)

/-- Different keys are different numbers, so sorting leaves no two of them equal. -/
theorem pairwise_sortedIndices (pairs : List (String × α)) :
    ((sortedIndices pairs).map Prod.fst).Pairwise fun key later =>
      ∃ m n, IsIndex key m ∧ IsIndex later n ∧ m < n := by
  have hsorted : ((indexed pairs).mergeSort fun a b => a.1 ≤ b.1).Pairwise
      fun a b => decide (a.1 ≤ b.1) = true :=
    List.pairwise_mergeSort (by simp only [decide_eq_true_eq]; omega)
      (by simp only [Bool.or_eq_true, decide_eq_true_eq]; omega) _
  have hdistinct : ((indexed pairs).mergeSort fun a b => a.1 ≤ b.1).Pairwise
      fun a b => a.2.1 ≠ b.2.1 := by
    rw [(List.mergeSort_perm (indexed pairs) _).pairwise_iff Ne.symm]
    have hkeys := List.pairwise_map.mp (List.nodup_iff_pairwise_ne.mp (nodup_keys_collapse pairs))
    apply hkeys.filterMap
    intro member other hne found hfound later hlater
    obtain ⟨m, -, rfl⟩ := Option.map_eq_some_iff.mp hfound
    obtain ⟨n, -, rfl⟩ := Option.map_eq_some_iff.mp hlater
    exact hne
  rw [sortedIndices, List.map_map, List.pairwise_map]
  apply (hsorted.and hdistinct).imp_of_mem
  rintro ⟨m, member⟩ ⟨n, later⟩ hmember hlater ⟨hle, hne⟩
  obtain ⟨-, hm⟩ := mem_indexed_iff.mp (List.mem_mergeSort.mp hmember)
  obtain ⟨-, hn⟩ := mem_indexed_iff.mp (List.mem_mergeSort.mp hlater)
  have hle : m ≤ n := of_decide_eq_true hle
  refine ⟨m, n, hm, hn, Nat.lt_of_le_of_ne hle ?_⟩
  rintro rfl
  exact hne (hm.eq hn)

/-- The keys of a part of the members that only keys decide about. -/
theorem mem_keys_iff_of_part {pairs part : List (String × α)} {P : String → Prop}
    (hpart : ∀ member, member ∈ part ↔ member ∈ collapse pairs ∧ P member.1) (key : String) :
    key ∈ part.map Prod.fst ↔ key ∈ pairs.map Prod.fst ∧ P key := by
  have hkeys : key ∈ (collapse pairs).map Prod.fst ↔ key ∈ pairs.map Prod.fst := mem_keys_collapse
  rw [← hkeys, List.mem_map, List.mem_map]
  constructor
  · rintro ⟨member, hmember, rfl⟩
    obtain ⟨hmem, hkey⟩ := (hpart member).mp hmember
    exact ⟨⟨member, hmem, rfl⟩, hkey⟩
  · rintro ⟨⟨member, hmem, rfl⟩, hkey⟩
    exact ⟨member, (hpart member).mpr ⟨hmem, hkey⟩, rfl⟩

/-- The members of an object are written in the right order. -/
theorem arranged_keys (pairs : List (String × α)) :
    Arranged (pairs.map Prod.fst) ((sortedIndices pairs).map Prod.fst)
      ((plainMembers pairs).map Prod.fst) where
  mem_indices := mem_keys_iff_of_part fun _ => mem_sortedIndices_iff
  ascending := pairwise_sortedIndices pairs
  mem_others := mem_keys_iff_of_part fun _ => mem_plainMembers_iff
  in_order := (pairwise_keys_collapse pairs).sublist (List.filter_sublist.map Prod.fst)

end

end WindowScript.Json
