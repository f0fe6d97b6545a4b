/-
# Joined paths

A path is resolved part by part: a stack holds the parts gone into so far, last
first. The stack of a path is settled: its parts are names, with double dots only
below all of them, and with none at all in an absolute path. Writing a settled stack
out and resolving the text again gives the same stack, so normal forms are fixed
points, and joining a name to a path adds it behind what only the path decides.
-/

import WindowScript.Path

namespace WindowScript.Path

/-! ## Parts -/

theorem parts_of_not_mem {name : List Char} (hname : '/' ∉ name) : parts name = [name] := by
  induction name with
  | nil => rfl
  | cons c name ih =>
      rw [List.mem_cons, not_or] at hname
      rw [parts_cons_of_ne (Ne.symm hname.1), ih hname.2]

theorem slash_not_mem_of_mem_parts {path part : List Char} (hpart : part ∈ parts path) :
    '/' ∉ part := by
  induction path generalizing part with
  | nil => simp_all
  | cons c path ih =>
      by_cases hc : c = '/'
      · rw [hc, parts_slash, List.mem_cons] at hpart
        rcases hpart with rfl | hpart
        · simp
        · exact ih hpart
      · rw [parts_cons_of_ne hc] at hpart
        cases hpath : parts path with
        | nil => exact absurd hpath (parts_ne_nil path)
        | cons head rest =>
            rw [hpath] at hpart ih
            rw [List.mem_cons] at hpart
            rcases hpart with rfl | hpart
            · rw [List.mem_cons, not_or]
              exact ⟨Ne.symm hc, ih List.mem_cons_self⟩
            · exact ih (List.mem_cons_of_mem head hpart)

/-- Parts that are joined by slashes are found again. -/
theorem parts_intercalate {found : List (List Char)} (hne : found ≠ [])
    (hslash : ∀ part ∈ found, '/' ∉ part) :
    parts (List.intercalate ['/'] found) = found := by
  induction found with
  | nil => exact absurd rfl hne
  | cons part found ih =>
      have hpart := hslash part List.mem_cons_self
      cases found with
      | nil =>
          rw [List.intercalate_singleton]
          exact parts_of_not_mem hpart
      | cons next found =>
          have hrest := ih (by simp) fun other hother =>
            hslash other (List.mem_cons_of_mem part hother)
          rw [List.intercalate_cons_cons, List.append_assoc, List.singleton_append,
            parts_append_slash, parts_of_not_mem hpart, hrest]
          rfl

/-! ## Settled stacks -/

/-- A part that leads into a directory of this name. -/
structure IsName (part : List Char) : Prop where
  ne_nil : part ≠ []
  ne_dot : part ≠ ['.']
  ne_up : part ≠ ['.', '.']
  slash_not_mem : '/' ∉ part

/-- What a stack of parts can be: names, and below them double dots, of which an
absolute path has none. -/
def Settled (isAbsolute : Bool) (done : List (List Char)) : Prop :=
  ∃ names ups, done = names ++ List.replicate ups ['.', '.'] ∧ (∀ part ∈ names, IsName part) ∧
    (isAbsolute = true → ups = 0)

theorem enter_of_isName {part : List Char} (hname : IsName part) (isAbsolute : Bool)
    (done : List (List Char)) : enter isAbsolute done part = part :: done := by
  rw [enter.eq_def, if_neg (not_or.mpr ⟨hname.ne_nil, hname.ne_dot⟩), if_neg hname.ne_up]

theorem settled_nil (isAbsolute : Bool) : Settled isAbsolute [] :=
  ⟨[], 0, rfl, by simp, fun _ => rfl⟩

theorem Settled.cons {isAbsolute : Bool} {done : List (List Char)} {name : List Char}
    (hdone : Settled isAbsolute done) (hname : IsName name) :
    Settled isAbsolute (name :: done) := by
  obtain ⟨names, ups, rfl, hnames, hups⟩ := hdone
  exact ⟨name :: names, ups, rfl, List.forall_mem_cons.mpr ⟨hname, hnames⟩, hups⟩

/-- Going back takes the last name away, or adds double dots where there is none. -/
theorem Settled.enter_up {isAbsolute : Bool} {done : List (List Char)}
    (hdone : Settled isAbsolute done) : Settled isAbsolute (enter isAbsolute done ['.', '.']) := by
  obtain ⟨names, ups, rfl, hnames, hups⟩ := hdone
  rw [enter.eq_def, if_neg (by decide), if_pos rfl]
  cases names with
  | cons name names =>
      obtain ⟨hname, hnames⟩ := List.forall_mem_cons.mp hnames
      rw [List.cons_append]
      dsimp only
      rw [if_neg hname.ne_up]
      exact ⟨names, ups, rfl, hnames, hups⟩
  | nil =>
      rw [List.nil_append]
      cases ups with
      | zero =>
          cases isAbsolute with
          | true => exact settled_nil true
          | false => exact ⟨[], 1, rfl, by simp, by simp⟩
      | succ ups =>
          have hrelative : isAbsolute = false := by
            rw [Bool.eq_false_iff]
            intro habsolute
            exact absurd (hups habsolute) (by simp)
          rw [List.replicate_succ]
          dsimp only
          rw [if_pos rfl]
          exact ⟨[], ups + 2, rfl, by simp, by simp [hrelative]⟩

theorem Settled.enter {isAbsolute : Bool} {done : List (List Char)} {part : List Char}
    (hdone : Settled isAbsolute done) (hpart : '/' ∉ part) :
    Settled isAbsolute (enter isAbsolute done part) := by
  by_cases hstay : part = [] ∨ part = ['.']
  · rwa [Path.enter.eq_def, if_pos hstay]
  by_cases hup : part = ['.', '.']
  · rw [hup]
    exact hdone.enter_up
  rw [not_or] at hstay
  have hname : IsName part := ⟨hstay.1, hstay.2, hup, hpart⟩
  rw [enter_of_isName hname]
  exact hdone.cons hname

theorem Settled.foldl {isAbsolute : Bool} {done found : List (List Char)}
    (hdone : Settled isAbsolute done) (hfound : ∀ part ∈ found, '/' ∉ part) :
    Settled isAbsolute (found.foldl (Path.enter isAbsolute) done) := by
  induction found generalizing done with
  | nil => exact hdone
  | cons part found ih =>
      obtain ⟨hpart, hfound⟩ := List.forall_mem_cons.mp hfound
      exact ih (hdone.enter hpart) hfound

/-- Going into names puts them on the stack. -/
theorem foldl_enter_names {names : List (List Char)} (hnames : ∀ part ∈ names, IsName part)
    (isAbsolute : Bool) (done : List (List Char)) :
    names.foldl (enter isAbsolute) done = names.reverse ++ done := by
  induction names generalizing done with
  | nil => rfl
  | cons name names ih =>
      obtain ⟨hname, hnames⟩ := List.forall_mem_cons.mp hnames
      rw [List.foldl_cons, enter_of_isName hname, ih hnames]
      simp

theorem foldl_enter_ups (done ups : Nat) :
    (List.replicate ups ['.', '.']).foldl (enter false) (List.replicate done ['.', '.']) =
      List.replicate (done + ups) ['.', '.'] := by
  induction ups generalizing done with
  | zero => rfl
  | succ ups ih =>
      have hup : enter false (List.replicate done ['.', '.']) ['.', '.'] =
          List.replicate (done + 1) ['.', '.'] := by
        cases done <;> simp [enter, List.replicate_succ]
      rw [List.replicate_succ, List.foldl_cons, hup, ih, Nat.add_right_comm, Nat.add_assoc]

/-- Resolving a settled stack from the bottom builds it up again. -/
theorem Settled.foldl_reverse {isAbsolute : Bool} {done : List (List Char)}
    (hdone : Settled isAbsolute done) :
    done.reverse.foldl (Path.enter isAbsolute) [] = done := by
  obtain ⟨names, ups, rfl, hnames, hups⟩ := hdone
  have hbottom : (List.replicate ups ['.', '.']).foldl (Path.enter isAbsolute) [] =
      List.replicate ups ['.', '.'] := by
    cases isAbsolute with
    | true =>
        rw [hups rfl]
        rfl
    | false =>
        have hups := foldl_enter_ups 0 ups
        rwa [List.replicate_zero, Nat.zero_add] at hups
  have hreverse : ∀ part ∈ names.reverse, IsName part := fun part hpart =>
    hnames part (List.mem_reverse.mp hpart)
  rw [List.reverse_append, List.reverse_replicate, List.foldl_append, hbottom,
    foldl_enter_names hreverse, List.reverse_reverse]

theorem Settled.slash_not_mem {isAbsolute : Bool} {done : List (List Char)}
    (hdone : Settled isAbsolute done) : ∀ part ∈ done, '/' ∉ part := by
  obtain ⟨names, ups, rfl, hnames, -⟩ := hdone
  intro part hpart
  rw [List.mem_append] at hpart
  rcases hpart with hpart | hpart
  · exact (hnames part hpart).slash_not_mem
  · rw [List.eq_of_mem_replicate hpart]
    decide

theorem Settled.nil_not_mem {isAbsolute : Bool} {done : List (List Char)}
    (hdone : Settled isAbsolute done) : [] ∉ done := by
  obtain ⟨names, ups, rfl, hnames, -⟩ := hdone
  rw [List.mem_append, not_or]
  constructor
  · intro hmem
    exact (hnames [] hmem).ne_nil rfl
  · intro hmem
    exact absurd (List.eq_of_mem_replicate hmem) (by decide)

/-! ## Normal forms -/

/-- Whether a path starts at the root. -/
def isAbsolute (path : List Char) : Bool := path.head? = some '/'

/-- The stack that a path leads to. -/
def resolved (path : List Char) : List (List Char) :=
  (parts path).foldl (enter (isAbsolute path)) []

/-- The text of a stack. -/
def written (isAbsolute : Bool) (done : List (List Char)) : List Char :=
  let body := List.intercalate ['/'] done.reverse
  if isAbsolute then '/' :: body else if body = [] then ['.'] else body

theorem normalize_eq (path : List Char) :
    normalize path = written (isAbsolute path) (resolved path) := by
  by_cases hroot : path.head? = some '/' <;>
    simp [normalize, written, resolved, isAbsolute, hroot]

theorem settled_resolved (path : List Char) : Settled (isAbsolute path) (resolved path) :=
  (settled_nil _).foldl fun _ hpart => slash_not_mem_of_mem_parts hpart

/-- What stands before a name that is joined to a path. -/
def base (isAbsolute : Bool) (done : List (List Char)) : List Char :=
  if done = [] then (if isAbsolute then ['/'] else []) else written isAbsolute done ++ ['/']

theorem intercalate_ne_nil {found : List (List Char)} (hne : found ≠ []) (hnil : [] ∉ found) :
    List.intercalate ['/'] found ≠ [] := by
  cases found with
  | nil => exact absurd rfl hne
  | cons part found =>
      have hpart : part ≠ [] := fun hpart => hnil (hpart ▸ List.mem_cons_self)
      cases found with
      | nil => rwa [List.intercalate_singleton]
      | cons next found => simp [List.intercalate_cons_cons]

theorem intercalate_append_singleton {found : List (List Char)} (hne : found ≠ [])
    (part : List Char) :
    List.intercalate ['/'] (found ++ [part]) = List.intercalate ['/'] found ++ '/' :: part := by
  induction found with
  | nil => exact absurd rfl hne
  | cons first found ih =>
      cases found with
      | nil => simp
      | cons next found =>
          have hrest := ih (by simp)
          simp only [List.cons_append, List.intercalate_cons_cons, List.append_assoc] at hrest ⊢
          rw [hrest]

/-- A name on top of a stack stands at the end of its text. -/
theorem written_cons {isAbsolute : Bool} {done : List (List Char)} {name : List Char}
    (hdone : Settled isAbsolute done) (hname : name ≠ []) :
    written isAbsolute (name :: done) = base isAbsolute done ++ name := by
  by_cases hnil : done = []
  · subst hnil
    cases isAbsolute <;> simp [written, base, hname]
  · have hreverse : done.reverse ≠ [] := by simpa using hnil
    have hbody := intercalate_ne_nil hreverse (by simpa using hdone.nil_not_mem)
    simp only [written, base, hnil, List.reverse_cons, if_false,
      intercalate_append_singleton hreverse]
    cases isAbsolute <;> simp [hbody]

theorem head?_intercalate_ne_slash {found : List (List Char)} (hnil : [] ∉ found)
    (hslash : ∀ part ∈ found, '/' ∉ part) :
    (List.intercalate ['/'] found).head? ≠ some '/' := by
  cases found with
  | nil => simp
  | cons part found =>
      have hpart := hslash part List.mem_cons_self
      cases part with
      | nil => exact absurd List.mem_cons_self hnil
      | cons c part =>
          rw [List.mem_cons, not_or] at hpart
          cases found with
          | nil => simpa using Ne.symm hpart.1
          | cons next found => simpa [List.intercalate_cons_cons] using Ne.symm hpart.1

theorem Settled.isAbsolute_written {isAbsolute : Bool} {done : List (List Char)}
    (hdone : Settled isAbsolute done) : Path.isAbsolute (written isAbsolute done) = isAbsolute := by
  have hhead : (List.intercalate ['/'] done.reverse).head? ≠ some '/' :=
    head?_intercalate_ne_slash (by simpa using hdone.nil_not_mem)
      (by simpa using hdone.slash_not_mem)
  cases isAbsolute with
  | true => simp [Path.isAbsolute, written]
  | false =>
      simp only [Path.isAbsolute, written, Bool.false_eq_true, if_false, decide_eq_false_iff_not]
      split
      · decide
      · exact hhead

/-- The text of a settled stack leads to that stack. -/
theorem Settled.resolved_written {isAbsolute : Bool} {done : List (List Char)}
    (hdone : Settled isAbsolute done) : resolved (written isAbsolute done) = done := by
  rw [resolved, hdone.isAbsolute_written]
  by_cases hnil : done = []
  · subst hnil
    cases isAbsolute <;> decide
  · have hreverse : done.reverse ≠ [] := by simpa using hnil
    have hbody := intercalate_ne_nil hreverse (by simpa using hdone.nil_not_mem)
    have hparts := parts_intercalate hreverse (by simpa using hdone.slash_not_mem)
    cases isAbsolute with
    | true =>
        rw [written, if_pos rfl, parts_slash, hparts]
        exact hdone.foldl_reverse
    | false =>
        rw [written, if_neg (by decide), if_neg hbody, hparts]
        exact hdone.foldl_reverse

/-! ## Joining -/

theorem resolved_append_name {path name : List Char} (hpath : path ≠ []) (hname : IsName name) :
    isAbsolute (path ++ '/' :: name) = isAbsolute path ∧
      resolved (path ++ '/' :: name) = name :: resolved path := by
  have habsolute : isAbsolute (path ++ '/' :: name) = isAbsolute path := by
    cases path with
    | nil => exact absurd rfl hpath
    | cons c path => rfl
  refine ⟨habsolute, ?_⟩
  rw [resolved, habsolute, parts_append_slash, parts_of_not_mem hname.slash_not_mem,
    List.foldl_append]
  exact enter_of_isName hname _ _

theorem resolved_name {name : List Char} (hname : IsName name) :
    isAbsolute name = false ∧ resolved name = [name] := by
  have hrelative : isAbsolute name = false := by
    have hslash := hname.slash_not_mem
    cases name with
    | nil => rfl
    | cons c name =>
        rw [List.mem_cons, not_or] at hslash
        simpa [isAbsolute] using Ne.symm hslash.1
  refine ⟨hrelative, ?_⟩
  rw [resolved, parts_of_not_mem hname.slash_not_mem]
  exact enter_of_isName hname _ _

/-- The stack of a joined path is that of the directory with the name on top. -/
theorem toList_join (directory : String) {name : String} (hname : IsName name.toList) :
    (join directory name).toList =
      written (isAbsolute directory.toList) (name.toList :: resolved directory.toList) := by
  rw [join, String.toList_ofList, normalize_eq]
  by_cases hempty : directory = ""
  · obtain ⟨hrelative, hresolved⟩ := resolved_name hname
    rw [if_pos hempty, hrelative, hresolved, hempty]
    rfl
  · have hne : directory.toList ≠ [] := by simpa using hempty
    obtain ⟨habsolute, hresolved⟩ := resolved_append_name hne hname
    rw [if_neg hempty, habsolute, hresolved]

/-- What stands before every name that is joined to a directory. -/
def joinBase (directory : String) : List Char :=
  base (isAbsolute directory.toList) (resolved directory.toList)

theorem toList_join_eq_base (directory : String) {name : String} (hname : IsName name.toList) :
    (join directory name).toList = joinBase directory ++ name.toList := by
  rw [toList_join directory hname, written_cons (settled_resolved _) hname.ne_nil]
  rfl

/-- A name that is joined to a joined path stands behind that path and a slash. -/
theorem toList_join_join (directory : String) {name inner : String} (hname : IsName name.toList)
    (hinner : IsName inner.toList) :
    (join (join directory name) inner).toList =
      (join directory name).toList ++ '/' :: inner.toList := by
  have hsettled := (settled_resolved directory.toList).cons hname
  have hjoined := toList_join directory hname
  rw [toList_join_eq_base _ hinner, joinBase, hjoined, hsettled.isAbsolute_written,
    hsettled.resolved_written, base, if_neg (by simp)]
  simp

theorem base_eq_nil_or_slash (isAbsolute : Bool) (done : List (List Char)) :
    base isAbsolute done = [] ∨ ∃ front, base isAbsolute done = front ++ ['/'] := by
  by_cases hnil : done = []
  · cases isAbsolute with
    | true => exact Or.inr ⟨[], by simp [base, hnil]⟩
    | false => exact Or.inl (by simp [base, hnil])
  · exact Or.inr ⟨written isAbsolute done, by simp [base, hnil]⟩

theorem basename_of_isName {front name : List Char} (hname : IsName name)
    (hfront : front = [] ∨ ∃ outer, front = outer ++ ['/']) :
    basename (front ++ name) = name := by
  have hslash : ∀ c ∈ name.reverse, decide (c ≠ '/') = true := by
    intro c hc
    rw [decide_eq_true_eq]
    rintro rfl
    exact hname.slash_not_mem (List.mem_reverse.mp hc)
  have hkeep : (name.reverse ++ front.reverse).dropWhile (· = '/') =
      name.reverse ++ front.reverse := by
    cases hreverse : name.reverse with
    | nil => exact absurd (List.reverse_eq_nil_iff.mp hreverse) hname.ne_nil
    | cons c rest =>
        have hc := hslash c (hreverse ▸ List.mem_cons_self)
        rw [List.cons_append, List.dropWhile_cons_of_neg]
        simpa using hc
  have htake : (name.reverse ++ front.reverse).takeWhile (· ≠ '/') = name.reverse := by
    rw [List.takeWhile_append_of_pos hslash]
    rcases hfront with rfl | ⟨outer, rfl⟩ <;> simp
  rw [basename, List.reverse_append, hkeep, htake, List.reverse_reverse]

/-- The last part of a joined path is the name that was joined. -/
theorem basename_join (directory : String) {name : String} (hname : IsName name.toList) :
    basename (join directory name).toList = name.toList := by
  rw [toList_join_eq_base directory hname]
  exact basename_of_isName hname (base_eq_nil_or_slash _ _)

end WindowScript.Path
