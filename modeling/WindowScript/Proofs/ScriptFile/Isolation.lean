/-
# Script files do not touch each other

Script files share one disk, and every operation on one of them acts on paths. The
directories of two script files have different names of one length under one
parent, so that neither is the other nor leads into it. As long as no name is used
twice, also not the name of a directory that is gone, what is to be seen of a file
depends on nothing but the operations on it since it was made.
-/

import Mathlib.Data.List.Induction
import WindowScript.Proofs.Path.Normal
import WindowScript.ScriptFile

namespace WindowScript.ScriptFile

/-! ## Directories of script files -/

/-- The last characters of a directory that can be made. -/
def IsSuffix (suffix : String) : Prop := isMarker (markerPrefix ++ suffix) = true

instance (suffix : String) : Decidable (IsSuffix suffix) := inferInstanceAs (Decidable (_ = _))

theorem IsSuffix.length_eq {suffix : String} (hsuffix : IsSuffix suffix) :
    suffix.toList.length = 6 := by
  simp only [IsSuffix, isMarker, Bool.and_eq_true, decide_eq_true_eq, String.toList_append,
    ← String.length_toList, List.drop_left] at hsuffix
  exact hsuffix.1.2

theorem IsSuffix.isAlphanum {suffix : String} (hsuffix : IsSuffix suffix) :
    ∀ c ∈ suffix.toList, c.isAlphanum = true := by
  simp only [IsSuffix, isMarker, Bool.and_eq_true, decide_eq_true_eq, String.toList_append,
    ← String.length_toList, List.drop_left, List.all_eq_true] at hsuffix
  exact hsuffix.2

theorem IsSuffix.isName {suffix : String} (hsuffix : IsSuffix suffix) :
    Path.IsName (markerPrefix ++ suffix).toList := by
  rw [String.toList_append]
  refine ⟨by simp [markerPrefix], by simp [markerPrefix], by simp [markerPrefix], ?_⟩
  rw [List.mem_append, not_or]
  refine ⟨by decide, ?_⟩
  intro hslash
  exact absurd (hsuffix.isAlphanum '/' hslash) (by decide)

theorem isName_scriptName : Path.IsName scriptName.toList :=
  ⟨by decide, by decide, by decide, by decide⟩

variable {parent suffix other : String}

theorem toList_directory (parent : String) (hsuffix : IsSuffix suffix) :
    (madeIn parent suffix).directory.toList =
      Path.joinBase parent ++ markerPrefix.toList ++ suffix.toList := by
  rw [madeIn, Path.toList_join_eq_base parent hsuffix.isName, String.toList_append,
    List.append_assoc]

theorem toList_path (parent : String) (hsuffix : IsSuffix suffix) :
    (madeIn parent suffix).file.path.toList =
      (madeIn parent suffix).directory.toList ++ '/' :: scriptName.toList :=
  Path.toList_join_join parent hsuffix.isName isName_scriptName

theorem length_directory (parent : String) (hsuffix : IsSuffix suffix) :
    (madeIn parent suffix).directory.toList.length =
      (Path.joinBase parent).length + markerPrefix.toList.length + 6 := by
  rw [toList_directory parent hsuffix, List.length_append, List.length_append, hsuffix.length_eq]

theorem eq_of_directory_eq (hsuffix : IsSuffix suffix) (hother : IsSuffix other)
    (heq : (madeIn parent suffix).directory.toList = (madeIn parent other).directory.toList) :
    suffix = other := by
  rw [toList_directory parent hsuffix, toList_directory parent hother] at heq
  exact String.toList_inj.mp (List.append_cancel_left heq)

theorem isWithin_iff {directory path : String} :
    Disk.isWithin directory path = true ↔
      path = directory ∨ directory.toList ++ ['/'] <+: path.toList := by
  simp [Disk.isWithin]

/-- The directory of a script file lies in no other one's directory. -/
theorem isWithin_directory_iff (hsuffix : IsSuffix suffix) (hother : IsSuffix other) :
    Disk.isWithin (madeIn parent suffix).directory (madeIn parent other).directory = true ↔
      other = suffix := by
  rw [isWithin_iff]
  constructor
  · rintro (heq | hinside)
    · exact eq_of_directory_eq hother hsuffix (congrArg String.toList heq)
    · have hlength := hinside.length_le
      rw [List.length_append, length_directory parent hsuffix, length_directory parent hother]
        at hlength
      simp at hlength
  · rintro rfl
    exact Or.inl rfl

/-- The script of a script file lies in its own directory only. -/
theorem isWithin_path_iff (hsuffix : IsSuffix suffix) (hother : IsSuffix other) :
    Disk.isWithin (madeIn parent suffix).directory (madeIn parent other).file.path = true ↔
      other = suffix := by
  have hsame : (madeIn parent suffix).directory.toList.length =
      (madeIn parent other).directory.toList.length := by
    rw [length_directory parent hsuffix, length_directory parent hother]
  rw [isWithin_iff, toList_path parent hother]
  constructor
  · rintro (heq | ⟨rest, hrest⟩)
    · have hlength := congrArg (List.length ∘ String.toList) heq
      simp only [Function.comp_apply, toList_path parent hother, List.length_append, hsame,
        List.length_cons] at hlength
      omega
    · rw [List.append_assoc] at hrest
      exact eq_of_directory_eq hother hsuffix (List.append_inj_left hrest hsame).symm
  · rintro rfl
    exact Or.inr ⟨scriptName.toList, by simp⟩

theorem eq_of_path_eq (hsuffix : IsSuffix suffix) (hother : IsSuffix other)
    (heq : (madeIn parent suffix).file.path = (madeIn parent other).file.path) :
    suffix = other := by
  have hown : Disk.isWithin (madeIn parent suffix).directory
      (madeIn parent suffix).file.path = true := (isWithin_path_iff hsuffix hsuffix).mpr rfl
  rw [heq, isWithin_path_iff hsuffix hother] at hown
  exact hown.symm

/-! ## What is to be seen of a script file -/

/-- What is to be seen of a script file: whether its directory is there, and the
script in it. -/
structure Seen where
  present : Bool
  contents : Option String
  deriving DecidableEq, Repr

/-- What is to be seen of a script file that was made. -/
def Store.seen (store : Store) (made : Made) : Seen :=
  ⟨store.isPresent made, store.contents? made⟩

/-- What is to be seen of the `i`-th script file. -/
def Store.seen? (store : Store) (i : Nat) : Option Seen := store.files[i]?.map store.seen

theorem lookup_cons_of_ne {path key : String} (hne : path ≠ key) (text : String)
    (texts : List (String × String)) : ((key, text) :: texts).lookup path = texts.lookup path := by
  rw [List.lookup_cons, beq_false_of_ne hne]

theorem lookup_filter_key (keep : String → Bool) (texts : List (String × String)) (path : String) :
    (texts.filter fun file => keep file.1).lookup path =
      if keep path then texts.lookup path else none := by
  induction texts with
  | nil => simp
  | cons file texts ih =>
      obtain ⟨key, text⟩ := file
      by_cases hpath : path = key
      · subst hpath
        by_cases hkeep : keep path = true
        · simp [hkeep]
        · simp [hkeep, ih]
      · rw [lookup_cons_of_ne hpath, List.filter_cons]
        split
        · rw [lookup_cons_of_ne hpath, ih]
        · exact ih

section Disk

variable {disk : Disk}

/-- A new directory is no other script file's. -/
theorem seen_make (hsuffix : IsSuffix suffix) (hother : IsSuffix other) (hne : other ≠ suffix)
    (files before : List Made) :
    Store.seen ⟨files, disk.make (madeIn parent suffix).directory⟩ (madeIn parent other) =
      Store.seen ⟨before, disk⟩ (madeIn parent other) := by
  have hdirectory : (madeIn parent other).directory ≠ (madeIn parent suffix).directory :=
    fun heq => hne (eq_of_directory_eq hother hsuffix (congrArg String.toList heq))
  simp [Store.seen, Store.isPresent, Store.contents?, Disk.make, Disk.text?, hdirectory]

/-- A new directory is there and empty. -/
theorem seen_make_self (files : List Made)
    (hempty : disk.text? (madeIn parent suffix).file.path = none) :
    Store.seen ⟨files, disk.make (madeIn parent suffix).directory⟩ (madeIn parent suffix) =
      ⟨true, none⟩ := by
  rw [Disk.text?] at hempty
  simp [Store.seen, Store.isPresent, Store.contents?, Disk.make, Disk.text?, hempty]

/-- A script that is written is seen in its own file only. -/
theorem seen_write (hsuffix : IsSuffix suffix) (hother : IsSuffix other) (files : List Made)
    (text : String) :
    Store.seen ⟨files, { disk with
        texts := ((madeIn parent suffix).file.path, text) :: disk.texts }⟩ (madeIn parent other) =
      if other = suffix then ⟨Store.isPresent ⟨files, disk⟩ (madeIn parent other), some text⟩
      else Store.seen ⟨files, disk⟩ (madeIn parent other) := by
  by_cases hsame : other = suffix
  · simp [Store.seen, Store.isPresent, Store.contents?, Disk.text?, hsame]
  · have hpath : (madeIn parent other).file.path ≠ (madeIn parent suffix).file.path :=
      fun heq => hsame (eq_of_path_eq hother hsuffix heq)
    simp only [Store.seen, Store.isPresent, Store.contents?, Disk.text?, lookup_cons_of_ne hpath,
      if_neg hsame]

/-- A directory that is removed takes nothing of another file with it. -/
theorem seen_remove (hsuffix : IsSuffix suffix) (hother : IsSuffix other) (files : List Made) :
    Store.seen ⟨files, disk.remove (madeIn parent suffix).directory⟩ (madeIn parent other) =
      if other = suffix then ⟨false, none⟩
      else Store.seen ⟨files, disk⟩ (madeIn parent other) := by
  have hdirectory : Disk.isWithin (madeIn parent suffix).directory
      (madeIn parent other).directory = decide (other = suffix) := by
    rw [Bool.eq_iff_iff, isWithin_directory_iff hsuffix hother, decide_eq_true_eq]
  have hpath : Disk.isWithin (madeIn parent suffix).directory
      (madeIn parent other).file.path = decide (other = suffix) := by
    rw [Bool.eq_iff_iff, isWithin_path_iff hsuffix hother, decide_eq_true_eq]
  have htext : (disk.remove (madeIn parent suffix).directory).text?
      (madeIn parent other).file.path =
        if other = suffix then none else disk.text? (madeIn parent other).file.path := by
    rw [Disk.text?, Disk.remove, lookup_filter_key fun path =>
      !Disk.isWithin (madeIn parent suffix).directory path, hpath]
    by_cases hsame : other = suffix <;> simp [hsame, Disk.text?]
  have hpresent : Store.isPresent ⟨files, disk.remove (madeIn parent suffix).directory⟩
      (madeIn parent other) =
        (Store.isPresent ⟨files, disk⟩ (madeIn parent other) && !decide (other = suffix)) := by
    simp [Store.isPresent, Disk.remove, hdirectory, Bool.decide_and]
  rw [Store.seen, Store.contents?, htext, hpresent]
  by_cases hsame : other = suffix <;> simp [hsame, Store.seen, Store.contents?]

end Disk

/-! ## Operations -/

/-- Something that is done with script files. A new directory gets the last
characters that the system chooses, if its parent is there. -/
inductive Operation
  | create (parentExists : Bool) (suffix : String)
  | write (i : Nat) (text : String)
  | remove (i : Nat)
  deriving DecidableEq, Repr

namespace Operation

/-- Do something, which may fail. -/
def perform (parent : String) (store : Store) : Operation → Store × Option Failure
  | .create parentExists suffix => store.create parentExists parent suffix
  | .write i text => store.write i text
  | .remove i => (store.remove i, none)

/-- The last characters of the directory that an operation makes. -/
def made? : Operation → Option String
  | .create true suffix => some suffix
  | _ => none

/-- The file that an operation is about. -/
def target? : Operation → Option Nat
  | .create _ _ => none
  | .write i _ => some i
  | .remove i => some i

/-- The text that an operation writes to the `i`-th file. -/
def textFor? (i : Nat) : Operation → Option String
  | .write j text => if j = i then some text else none
  | _ => none

/-- What an operation makes of what is to be seen of the `i`-th file. -/
def effect (i : Nat) (seen : Seen) : Operation → Seen
  | .create _ _ => seen
  | .write j text => if j = i ∧ seen.present then ⟨true, some text⟩ else seen
  | .remove j => if j = i then ⟨false, none⟩ else seen

theorem effect_of_target_ne {operation : Operation} {i : Nat} (hne : operation.target? ≠ some i)
    (seen : Seen) : operation.effect i seen = seen := by
  cases operation with
  | create parentExists suffix => rfl
  | write j text =>
      have hij : j ≠ i := by simpa [target?] using hne
      simp [effect, hij]
  | remove j =>
      have hij : j ≠ i := by simpa [target?] using hne
      simp [effect, hij]

end Operation

/-- The last characters of all directories that operations make, in order. -/
def suffixes (operations : List Operation) : List String :=
  operations.filterMap Operation.made?

/-- No name of a directory is used twice. -/
def Fresh (made : List String) : Prop := made.Nodup ∧ ∀ suffix ∈ made, IsSuffix suffix

instance (made : List String) : Decidable (Fresh made) := inferInstanceAs (Decidable (_ ∧ _))

/-- The store after operations. -/
def after (parent : String) (operations : List Operation) : Store :=
  operations.foldl (fun store operation => (operation.perform parent store).1) {}

theorem after_append_singleton (parent : String) (operations : List Operation)
    (operation : Operation) :
    after parent (operations ++ [operation]) =
      (operation.perform parent (after parent operations)).1 := by
  simp [after]

theorem suffixes_append (first second : List Operation) :
    suffixes (first ++ second) = suffixes first ++ suffixes second :=
  List.filterMap_append

theorem suffixes_singleton (operation : Operation) :
    suffixes [operation] = operation.made?.toList := by
  cases hmade : operation.made? <;> simp [suffixes, hmade]

theorem Fresh.of_append {first second : List String} (hfresh : Fresh (first ++ second)) :
    Fresh first :=
  ⟨(List.nodup_append.mp hfresh.1).1, fun suffix hmem =>
    hfresh.2 suffix (List.mem_append_left second hmem)⟩

/-! ## One operation -/

/-- A store that holds the script files of these directories, and no scripts but
theirs. -/
structure Holds (parent : String) (made : List String) (store : Store) : Prop where
  files_eq : store.files = made.map (madeIn parent)
  path_mem : ∀ file ∈ store.disk.texts, ∃ suffix ∈ made, file.1 = (madeIn parent suffix).file.path

section Step

variable {made : List String} {store : Store}

theorem Holds.getElem? (hholds : Holds parent made store) (i : Nat) :
    store.files[i]? = made[i]?.map (madeIn parent) := by
  rw [hholds.files_eq, List.getElem?_map]

theorem Holds.seen?_eq (hholds : Holds parent made store) (i : Nat) :
    store.seen? i = made[i]?.map fun suffix => store.seen (madeIn parent suffix) := by
  rw [Store.seen?, hholds.getElem?, Option.map_map]
  rfl

/-- No script stands yet where a new name leads. -/
theorem Holds.text?_of_fresh (hholds : Holds parent made store)
    (hfresh : Fresh (made ++ [suffix])) :
    store.disk.text? (madeIn parent suffix).file.path = none := by
  rw [Disk.text?, List.lookup_eq_none_iff]
  intro file hfile
  obtain ⟨key, hkey, hpath⟩ := hholds.path_mem file hfile
  rw [hpath, bne_iff_ne]
  intro heq
  have hsame := eq_of_path_eq (hfresh.2 suffix (by simp)) (hfresh.2 key (by simp [hkey])) heq
  exact (List.nodup_append.mp hfresh.1).2.2 key hkey suffix (by simp) hsame.symm

theorem Holds.create (hholds : Holds parent made store) (suffix : String) :
    Holds parent (made ++ [suffix]) (store.create true parent suffix).1 where
  files_eq := by simp [Store.create, hholds.files_eq]
  path_mem := by
    intro file hfile
    obtain ⟨key, hkey, hpath⟩ := hholds.path_mem file hfile
    exact ⟨key, List.mem_append_left _ hkey, hpath⟩

theorem write_of_some (hholds : Holds parent made store) {i : Nat} (hmade : made[i]? = some suffix)
    (text : String) :
    store.write i text =
      if store.isPresent (madeIn parent suffix) then
        (⟨store.files, { store.disk with
          texts := ((madeIn parent suffix).file.path, text) :: store.disk.texts }⟩, none)
      else (store, some (.removedFile (madeIn parent suffix).file.path)) := by
  simp only [Store.write, hholds.getElem?, hmade, Option.map_some, Disk.write?, Store.isPresent,
    decide_eq_true_eq]
  by_cases hthere : (madeIn parent suffix).directory ∈ store.disk.directories
  · rw [if_pos hthere, if_pos hthere]
  · rw [if_neg hthere, if_neg hthere]

theorem write_of_none (hholds : Holds parent made store) {i : Nat} (hmade : made[i]? = none)
    (text : String) : store.write i text = (store, none) := by
  simp [Store.write, hholds.getElem?, hmade]

theorem Holds.write (hholds : Holds parent made store) (i : Nat) (text : String) :
    Holds parent made (store.write i text).1 := by
  cases hmade : made[i]? with
  | none => rwa [write_of_none hholds hmade]
  | some suffix =>
      rw [write_of_some hholds hmade]
      split
      · refine ⟨hholds.files_eq, ?_⟩
        intro file hfile
        rcases List.mem_cons.mp hfile with rfl | hfile
        · exact ⟨suffix, List.mem_of_getElem? hmade, rfl⟩
        · exact hholds.path_mem file hfile
      · exact hholds

theorem remove_of_some (hholds : Holds parent made store) {i : Nat}
    (hmade : made[i]? = some suffix) :
    store.remove i = ⟨store.files, store.disk.remove (madeIn parent suffix).directory⟩ := by
  simp [Store.remove, hholds.getElem?, hmade]

theorem remove_of_none (hholds : Holds parent made store) {i : Nat} (hmade : made[i]? = none) :
    store.remove i = store := by
  simp [Store.remove, hholds.getElem?, hmade]

theorem Holds.remove (hholds : Holds parent made store) (i : Nat) :
    Holds parent made (store.remove i) := by
  cases hmade : made[i]? with
  | none => rwa [remove_of_none hholds hmade]
  | some suffix =>
      rw [remove_of_some hholds hmade]
      refine ⟨hholds.files_eq, ?_⟩
      intro file hfile
      exact hholds.path_mem file (List.mem_filter.mp hfile).1

theorem Holds.perform (hholds : Holds parent made store) (operation : Operation) :
    Holds parent (made ++ operation.made?.toList) (operation.perform parent store).1 := by
  cases operation with
  | create parentExists suffix =>
      cases parentExists with
      | true => exact hholds.create suffix
      | false => simpa [Operation.made?, Operation.perform, Store.create] using hholds
  | write i text =>
      show Holds parent (made ++ []) (store.write i text).1
      rw [List.append_nil]
      exact hholds.write i text
  | remove i =>
      show Holds parent (made ++ []) (store.remove i)
      rw [List.append_nil]
      exact hholds.remove i

/-! ### What becomes of a file -/

theorem seen?_create (hholds : Holds parent made store) (hfresh : Fresh (made ++ [suffix]))
    {i : Nat} (hi : i < made.length) :
    (store.create true parent suffix).1.seen? i = store.seen? i := by
  rw [(hholds.create suffix).seen?_eq, hholds.seen?_eq, List.getElem?_append_left hi,
    List.getElem?_eq_getElem hi]
  have hmem : made[i] ∈ made := List.getElem_mem hi
  have hne : made[i] ≠ suffix := (List.nodup_append.mp hfresh.1).2.2 _ hmem suffix (by simp)
  simp only [Option.map_some, Option.some.injEq]
  exact seen_make (hfresh.2 suffix (by simp)) (hfresh.2 _ (by simp [hmem])) hne _ store.files

/-- A new file is there, and nothing is written in it. -/
theorem seen?_create_self (hholds : Holds parent made store) (hfresh : Fresh (made ++ [suffix])) :
    (store.create true parent suffix).1.seen? made.length = some ⟨true, none⟩ := by
  rw [(hholds.create suffix).seen?_eq, List.getElem?_concat_length, Option.map_some]
  exact congrArg some (seen_make_self _ (hholds.text?_of_fresh hfresh))

/-- The directory of another file has other last characters. -/
theorem Fresh.getElem_inj (hfresh : Fresh made) {i j : Nat} (hmade : made[i]? = some suffix)
    (hother : made[j]? = some other) : other = suffix ↔ j = i := by
  constructor
  · rintro rfl
    obtain ⟨hj, -⟩ := List.getElem?_eq_some_iff.mp hother
    exact (List.getElem?_inj hj hfresh.1).mp (hother.trans hmade.symm)
  · rintro rfl
    exact Option.some.inj (hother.symm.trans hmade)

theorem seen?_write (hholds : Holds parent made store) (hfresh : Fresh made) (i j : Nat)
    (text : String) :
    (store.write i text).1.seen? j = (store.seen? j).map fun seen =>
      (Operation.write i text).effect j seen := by
  rw [(hholds.write i text).seen?_eq, hholds.seen?_eq, Option.map_map]
  cases hother : made[j]? with
  | none => rfl
  | some other =>
      have hotherSuffix := hfresh.2 other (List.mem_of_getElem? hother)
      simp only [Option.map_some, Function.comp_apply, Option.some.injEq]
      cases hmade : made[i]? with
      | none =>
          have hij : i ≠ j := by
            rintro rfl
            simp [hmade] at hother
          rw [write_of_none hholds hmade]
          simp [Operation.effect, hij]
      | some suffix =>
          have hsuffix := hfresh.2 suffix (List.mem_of_getElem? hmade)
          have hsame := hfresh.getElem_inj hmade hother
          rw [write_of_some hholds hmade]
          by_cases hij : i = j
          · subst hij
            obtain rfl : other = suffix := hsame.mpr rfl
            by_cases hthere : store.isPresent (madeIn parent other) = true
            · rw [if_pos hthere, seen_write hsuffix hotherSuffix, if_pos rfl]
              simp [Operation.effect, Store.seen, hthere]
            · rw [if_neg hthere]
              simp [Operation.effect, Store.seen, hthere]
          · have hne : other ≠ suffix := fun heq => hij (hsame.mp heq).symm
            simp only [Operation.effect, hij, false_and, if_false]
            split
            · rw [seen_write hsuffix hotherSuffix, if_neg hne]
            · rfl

theorem seen?_remove (hholds : Holds parent made store) (hfresh : Fresh made) (i j : Nat) :
    (store.remove i).seen? j = (store.seen? j).map fun seen =>
      (Operation.remove i).effect j seen := by
  rw [(hholds.remove i).seen?_eq, hholds.seen?_eq, Option.map_map]
  cases hother : made[j]? with
  | none => rfl
  | some other =>
      have hotherSuffix := hfresh.2 other (List.mem_of_getElem? hother)
      simp only [Option.map_some, Function.comp_apply, Option.some.injEq, Operation.effect]
      cases hmade : made[i]? with
      | none =>
          have hij : i ≠ j := by
            rintro rfl
            simp [hmade] at hother
          rw [remove_of_none hholds hmade, if_neg hij]
      | some suffix =>
          have hsuffix := hfresh.2 suffix (List.mem_of_getElem? hmade)
          have hsame := hfresh.getElem_inj hmade hother
          rw [remove_of_some hholds hmade, seen_remove hsuffix hotherSuffix]
          by_cases hij : i = j
          · rw [if_pos (hsame.mpr hij.symm), if_pos hij]
          · rw [if_neg fun heq => hij (hsame.mp heq).symm, if_neg hij]

/-- An operation changes what is to be seen of a file only as far as it is about
this file. -/
theorem seen?_perform (hholds : Holds parent made store) {operation : Operation}
    (hfresh : Fresh (made ++ operation.made?.toList)) {i : Nat} (hi : i < made.length) :
    (operation.perform parent store).1.seen? i = (store.seen? i).map fun seen =>
      operation.effect i seen := by
  cases operation with
  | create parentExists suffix =>
      have hid (found : Option Seen) : found.map (fun seen => seen) = found := by
        cases found <;> rfl
      cases parentExists with
      | true => exact (seen?_create hholds hfresh hi).trans (hid _).symm
      | false => exact (hid _).symm
  | write j text => exact seen?_write hholds hfresh.of_append j i text
  | remove j => exact seen?_remove hholds hfresh.of_append j i

end Step

/-! ## Runs -/

/-- What is to be seen of the `i`-th file when these operations have followed its
creation. -/
def remembered (i : Nat) (later : List Operation) : Seen :=
  if .remove i ∈ later then ⟨false, none⟩
  else ⟨true, (later.filterMap (Operation.textFor? i)).getLast?⟩

theorem remembered_append_singleton (i : Nat) (later : List Operation) (operation : Operation) :
    remembered i (later ++ [operation]) = operation.effect i (remembered i later) := by
  by_cases hremoved : .remove i ∈ later
  · have hlater : .remove i ∈ later ++ [operation] := List.mem_append_left _ hremoved
    rw [remembered, remembered, if_pos hlater, if_pos hremoved]
    cases operation <;> simp [Operation.effect]
  · cases operation with
    | create parentExists suffix =>
        simp [remembered, hremoved, Operation.effect, Operation.textFor?]
    | write j text =>
        by_cases hij : j = i <;>
          simp [remembered, hremoved, Operation.effect, Operation.textFor?, hij]
    | remove j =>
        by_cases hij : j = i
        · simp [remembered, Operation.effect, hij]
        · simp [remembered, hremoved, Operation.effect, Operation.textFor?, hij, Ne.symm hij]

theorem holds_after (parent : String) (operations : List Operation) :
    Holds parent (suffixes operations) (after parent operations) := by
  induction operations using List.reverseRecOn with
  | nil => exact ⟨rfl, by simp [after]⟩
  | append_singleton operations operation ih =>
      rw [after_append_singleton, suffixes_append]
      rw [suffixes_singleton]
      exact ih.perform operation

/-- A file is seen as its own history tells. -/
theorem seen?_after (parent : String) {before later : List Operation}
    (hfresh : Fresh (suffixes (before ++ .create true suffix :: later))) :
    (after parent (before ++ .create true suffix :: later)).seen? (suffixes before).length =
      some (remembered (suffixes before).length later) := by
  induction later using List.reverseRecOn with
  | nil =>
      rw [suffixes_append] at hfresh
      rw [after_append_singleton]
      exact seen?_create_self (holds_after parent before) hfresh
  | append_singleton later operation ih =>
      rw [← List.cons_append, ← List.append_assoc] at hfresh ⊢
      rw [suffixes_append, suffixes_singleton] at hfresh
      have hi : (suffixes before).length <
          (suffixes (before ++ .create true suffix :: later)).length := by
        simp [suffixes, Operation.made?]
      rw [after_append_singleton, seen?_perform (holds_after parent _) hfresh hi,
        ih hfresh.of_append, Option.map_some, remembered_append_singleton]

theorem perform_of_failure {store : Store} {operation : Operation} {failure : Failure}
    (hfailure : (operation.perform parent store).2 = some failure) :
    (operation.perform parent store).1 = store := by
  cases operation with
  | create parentExists suffix =>
      cases parentExists with
      | true => exact absurd hfailure (by simp [Operation.perform, Store.create])
      | false => rfl
  | write i text =>
      simp only [Operation.perform, Store.write] at hfailure ⊢
      cases hmade : store.files[i]? with
      | none => rfl
      | some made =>
          cases hdisk : store.disk.write? made.directory made.file.path text with
          | none => simp only [hdisk]
          | some disk => exact absurd hfailure (by simp [hmade, hdisk])
  | remove i => exact absurd hfailure (by simp [Operation.perform])

theorem remove_remove (store : Store) (i : Nat) :
    (store.remove i).remove i = store.remove i := by
  unfold Store.remove
  cases hmade : store.files[i]? with
  | none => simp [hmade]
  | some made => simp [hmade, Disk.remove]

/-- The marker of a script file is the name of its directory. -/
theorem marker_madeIn (parent : String) (hsuffix : IsSuffix suffix) :
    (madeIn parent suffix).file.marker = markerPrefix ++ suffix := by
  show String.ofList (Path.basename (Path.join parent (markerPrefix ++ suffix)).toList) = _
  rw [Path.basename_join parent hsuffix.isName, String.ofList_toList]

/-- One more operation changes nothing of a file that it is not about. -/
theorem seen_after_of_target_ne {operations : List Operation} {operation : Operation} {i : Nat}
    {made : Made} (hfresh : Fresh (suffixes (operations ++ [operation])))
    (htarget : operation.target? ≠ some i)
    (hfile : (after parent operations).files[i]? = some made) :
    (after parent (operations ++ [operation])).files[i]? = some made ∧
      (after parent (operations ++ [operation])).seen made =
        (after parent operations).seen made := by
  have hholds := holds_after parent operations
  have hnext := holds_after parent (operations ++ [operation])
  rw [suffixes_append, suffixes_singleton] at hfresh hnext
  rw [hholds.getElem?, Option.map_eq_some_iff] at hfile
  obtain ⟨suffix, hsuffix, rfl⟩ := hfile
  obtain ⟨hi, -⟩ := List.getElem?_eq_some_iff.mp hsuffix
  have hkept : (suffixes operations ++ operation.made?.toList)[i]? = some suffix := by
    rw [List.getElem?_append_left hi, hsuffix]
  have hseen := seen?_perform hholds hfresh hi
  rw [← after_append_singleton, hnext.seen?_eq, hholds.seen?_eq, hkept, hsuffix] at hseen
  simp only [Option.map_some, Option.some.injEq,
    Operation.effect_of_target_ne htarget] at hseen
  rw [hnext.getElem?, hkept, Option.map_some]
  exact ⟨rfl, hseen⟩

theorem write_failure_iff {store : Store} {made : List String} (hholds : Holds parent made store)
    {i : Nat} (hmade : made[i]? = some suffix) (text : String) :
    (store.write i text).2 ≠ none ↔ store.isPresent (madeIn parent suffix) = false := by
  rw [write_of_some hholds hmade]
  split <;> simp_all

/-- Script files are isolated and removal is final. Take operations in which no
directory name is chosen twice. Each file that they make stands in a directory of
its own, named by its marker. The directory is there exactly if the file was not
removed since it was made, and then it holds the text of the last write to it, if
there was one. Writing fails exactly for a removed file. An operation that fails
leaves the store as it was, removing a file twice is removing it once, and one more
operation changes nothing of a file that it is not about. -/
theorem files_isolated (parent : String) {operations : List Operation}
    (hfresh : Fresh (suffixes operations)) :
    (∀ before suffix later, operations = before ++ .create true suffix :: later →
      ∃ i made, i = (suffixes before).length ∧ (after parent operations).files[i]? = some made ∧
        made.file.marker = markerPrefix ++ suffix ∧
        ((after parent operations).isPresent made = true ↔ .remove i ∉ later) ∧
        (after parent operations).contents? made =
          (if .remove i ∈ later then none
          else (later.filterMap (Operation.textFor? i)).getLast?) ∧
        ∀ text, ((after parent operations).write i text).2 ≠ none ↔ .remove i ∈ later) ∧
    (∀ operation failure,
      (Operation.perform parent (after parent operations) operation).2 = some failure →
        (Operation.perform parent (after parent operations) operation).1 =
          after parent operations) ∧
    (∀ i, ((after parent operations).remove i).remove i = (after parent operations).remove i) ∧
    ∀ operation i made, Fresh (suffixes (operations ++ [operation])) →
      operation.target? ≠ some i → (after parent operations).files[i]? = some made →
      (after parent (operations ++ [operation])).files[i]? = some made ∧
      (after parent (operations ++ [operation])).isPresent made =
        (after parent operations).isPresent made ∧
      (after parent (operations ++ [operation])).contents? made =
        (after parent operations).contents? made := by
  have hholds := holds_after parent operations
  refine ⟨?_, ?_, ?_, ?_⟩
  · rintro before suffix later rfl
    have hsuffix : IsSuffix suffix :=
      hfresh.2 suffix (by simp [suffixes, Operation.made?])
    have hmade : (suffixes (before ++ .create true suffix :: later))[(suffixes before).length]? =
        some suffix := by
      simp [suffixes, Operation.made?]
    have hseen := seen?_after parent hfresh
    rw [hholds.seen?_eq, hmade, Option.map_some, Option.some.injEq] at hseen
    have hpresent := congrArg Seen.present hseen
    have hcontents := congrArg Seen.contents hseen
    simp only [Store.seen, remembered] at hpresent hcontents
    refine ⟨_, madeIn parent suffix, rfl, ?_, marker_madeIn parent hsuffix, ?_, ?_, ?_⟩
    · rw [hholds.getElem?, hmade, Option.map_some]
    · rw [hpresent]
      split <;> simp_all
    · rw [hcontents]
      split <;> rfl
    · intro text
      rw [write_failure_iff hholds hmade, hpresent]
      split <;> simp_all
  · intro operation failure
    exact perform_of_failure
  · exact remove_remove _
  · intro operation i made hnext htarget hfile
    obtain ⟨hkept, hseen⟩ := seen_after_of_target_ne hnext htarget hfile
    exact ⟨hkept, congrArg Seen.present hseen, congrArg Seen.contents hseen⟩

/-- Two files, a missing parent, a removed file and a write that comes too late. -/
def interleaved : List Operation :=
  [.create true "AbC123", .create false "zzzzzz", .create true "AbC124", .write 0 "first",
    .write 1 "second", .write 1 "third", .remove 0, .write 0 "late"]

theorem files_isolated_interleaved :
    Fresh (suffixes interleaved) ∧
    ∃ gone kept, (after "/tmp" interleaved).files[0]? = some gone ∧
      (after "/tmp" interleaved).files[1]? = some kept ∧
      (after "/tmp" interleaved).isPresent gone ≠ true ∧
      ((after "/tmp" interleaved).write 0 "again").2 ≠ none ∧
      (after "/tmp" interleaved).isPresent kept = true ∧
      (after "/tmp" interleaved).contents? kept = some "third" := by
  have hfresh : Fresh (suffixes interleaved) := by decide
  have hfiles := (files_isolated "/tmp" hfresh).1
  obtain ⟨_, gone, rfl, hgone, -, habsent, -, hlate⟩ := hfiles [] "AbC123" _ rfl
  obtain ⟨_, kept, rfl, hkept, -, hpresent, hcontents, -⟩ :=
    hfiles (interleaved.take 2) "AbC124" _ rfl
  have hremoved : (after "/tmp" interleaved).isPresent gone ≠ true := fun hthere =>
    habsent.mp hthere (by decide)
  exact ⟨hfresh, gone, kept, hgone, hkept, hremoved, (hlate "again").mpr (by decide),
    hpresent.mpr (by decide), hcontents⟩

end WindowScript.ScriptFile
