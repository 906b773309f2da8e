import SqlAudit.Caller

/-!
# Normal paths

A normal path from the root is one slash or two, and then parts that are neither empty nor dots,
with slashes between them. `Path.relative` replaces the text of a directory at the start of a path
by a dot, whether or not a part of the path ends there. Main statements:

* `Path.foldl_step_plain`, `Path.plain_foldl_step`: parts that are no dots are kept, and only those;
* `Path.normal_joined`, `Path.IsNormal.exists_parts`: what a normal path is made of;
* `Path.absolute_dot`: what a path that starts with a dot is, seen from a directory;
* `Path.absolute_relative_iff`: which relative paths lead back to the path.
-/

namespace SqlAudit.Path

/-! ## Parts -/

theorem parts_eq_splitOn (path : List Char) : parts path = path.splitOn '/' := by
  induction path with
  | nil => rfl
  | cons c cs ih =>
    rw [List.splitOn_cons_eq_if_modifyHead, ← ih]
    by_cases hc : c = '/'
    · subst hc
      rfl
    · rw [if_neg (by simpa using hc)]
      simp only [parts]
      cases hcs : parts cs with
      | nil => exact absurd (ih.symm.trans hcs) (List.splitOn_ne_nil _ _)
      | cons p ps => rfl

theorem joined_eq_intercalate (ps : List (List Char)) : joined ps = ['/'].intercalate ps := by
  fun_induction joined ps with
  | case1 => rfl
  | case2 p => simp
  | case3 p ps hps ih =>
    cases ps with
    | nil => exact absurd rfl hps
    | cons q qs => simp [ih]

theorem joined_parts (path : List Char) : joined (parts path) = path := by
  rw [joined_eq_intercalate, parts_eq_splitOn, List.intercalate_splitOn]

theorem parts_joined {ps : List (List Char)} (h : ∀ p ∈ ps, '/' ∉ p) (hne : ps ≠ []) :
    parts (joined ps) = ps := by
  rw [joined_eq_intercalate, parts_eq_splitOn, List.splitOn_intercalate _ h hne]

theorem parts_ne_nil (path : List Char) : parts path ≠ [] := by
  rw [parts_eq_splitOn]
  exact List.splitOn_ne_nil _ _

theorem joined_nil_parts (path : List Char) : joined ([] :: parts path) = '/' :: path := by
  rw [joined, joined_parts, List.nil_append]
  exact parts_ne_nil path

theorem slash_notMem_of_mem_parts {path p : List Char} (h : p ∈ parts path) : '/' ∉ p := by
  induction path generalizing p with
  | nil => simp_all [parts]
  | cons c cs ih =>
    rw [parts_eq_splitOn, List.splitOn_cons_eq_if_modifyHead, ← parts_eq_splitOn] at h
    split at h
    · rcases List.mem_cons.1 h with rfl | h
      · exact List.not_mem_nil
      · exact ih h
    · rename_i hc
      cases hcs : parts cs with
      | nil => exact absurd hcs (parts_ne_nil cs)
      | cons q qs =>
        rw [hcs] at ih h
        rcases List.mem_cons.1 h with rfl | h
        · have hq : '/' ∉ q := ih List.mem_cons_self
          have hc : '/' ≠ c := fun h => hc (by rw [h, beq_self_eq_true])
          exact List.not_mem_cons_of_ne_of_not_mem hc hq
        · exact ih (List.mem_cons_of_mem _ h)

theorem joined_append {ps qs : List (List Char)} (hps : ps ≠ []) (hqs : qs ≠ []) :
    joined (ps ++ qs) = joined ps ++ '/' :: joined qs := by
  fun_induction joined ps with
  | case1 => exact absurd rfl hps
  | case2 p =>
    cases qs with
    | nil => exact absurd rfl hqs
    | cons q qs => rfl
  | case3 p ps hne ih =>
    have hne' : ps ≠ [] := fun h => hne h
    have hcons : joined (p :: (ps ++ qs)) = p ++ '/' :: joined (ps ++ qs) := by
      rw [joined]
      simp [hne']
    rw [List.cons_append, hcons, ih hne', List.append_assoc, List.cons_append]

/-- A text without a slash at its start goes on in the last part before it. -/
theorem joined_concat_append (ps : List (List Char)) (c p : List Char) (qs : List (List Char)) :
    joined (ps ++ [c]) ++ joined (p :: qs) = joined (ps ++ (c ++ p) :: qs) := by
  have htail (p : List Char) : joined (p :: qs) = p ++ joined ([] :: qs) := by
    cases qs with
    | nil => exact (List.append_nil p).symm
    | cons q qs => rfl
  by_cases hps : ps = []
  · subst hps
    rw [List.nil_append, List.nil_append, htail, htail (c ++ p), List.append_assoc]
    rfl
  · rw [joined_append hps (List.cons_ne_nil _ _), joined_append hps (List.cons_ne_nil _ _), htail,
      htail (c ++ p)]
    simp [joined]

/-! ## Plain parts -/

/-- A part that a normal path keeps: it is not empty and neither one dot nor two. -/
structure IsPlain (part : List Char) : Prop where
  slash : '/' ∉ part
  nonempty : part ≠ []
  dot : part ≠ ['.']
  dots : part ≠ ['.', '.']

theorem step_plain {part : List Char} (h : IsPlain part) (rooted : Bool)
    (done : List (List Char)) : step rooted done part = part :: done := by
  unfold step
  rw [if_neg (not_or.2 ⟨h.nonempty, h.dot⟩), if_neg h.dots]

theorem plain_step {done : List (List Char)} (hdone : ∀ p ∈ done, IsPlain p) {part : List Char}
    (hpart : '/' ∉ part) : ∀ p ∈ step true done part, IsPlain p := by
  unfold step
  split
  · exact hdone
  · rename_i hne
    rw [not_or] at hne
    split
    · cases done with
      | nil => exact hdone
      | cons last rest =>
        -- Two dots are never kept, so that there is always a part to go back from.
        rw [List.forall_mem_cons] at hdone
        simp only [if_neg hdone.1.dots]
        exact hdone.2
    · rename_i hdots
      exact List.forall_mem_cons.2 ⟨⟨hpart, hne.1, hne.2, hdots⟩, hdone⟩

/-- Plain parts are all kept. -/
theorem foldl_step_plain {ps : List (List Char)} (h : ∀ p ∈ ps, IsPlain p) (rooted : Bool)
    (done : List (List Char)) : ps.foldl (step rooted) done = ps.reverse ++ done := by
  induction ps generalizing done with
  | nil => rfl
  | cons p ps ih =>
    rw [List.forall_mem_cons] at h
    rw [List.foldl_cons, step_plain h.1, ih h.2, List.reverse_cons, List.append_assoc,
      List.singleton_append]

/-- From the root on, only plain parts are kept. -/
theorem plain_foldl_step {ps : List (List Char)} (h : ∀ p ∈ ps, '/' ∉ p)
    {done : List (List Char)} (hdone : ∀ p ∈ done, IsPlain p) :
    ∀ p ∈ ps.foldl (step true) done, IsPlain p := by
  induction ps generalizing done with
  | nil => exact hdone
  | cons p ps ih =>
    rw [List.forall_mem_cons] at h
    exact ih h.2 (plain_step hdone h.1)

/-! ## Normal paths -/

/-- The start of a normal path from the root: one slash or two. -/
def IsRoot (root : List Char) : Prop :=
  root = ['/'] ∨ root = ['/', '/']

/-- Parts as they show in a text behind a root: without slashes, and the first is not empty. -/
def Shown (ps : List (List Char)) : Prop :=
  (∀ p ∈ ps, '/' ∉ p) ∧ ps.head? ≠ some []

theorem shown_of_plain {ps : List (List Char)} (h : ∀ p ∈ ps, IsPlain p) : Shown ps := by
  refine ⟨fun p hp => (h p hp).slash, fun hhead => ?_⟩
  exact (h [] (List.mem_of_head? hhead)).nonempty rfl

theorem shown_append {ds : List (List Char)} (hds : ∀ d ∈ ds, IsPlain d) {ps : List (List Char)}
    (hps : ∀ p ∈ ps, '/' ∉ p) (hhead : ds = [] → ps.head? ≠ some []) : Shown (ds ++ ps) := by
  refine ⟨fun p hp => ?_, ?_⟩
  · rcases List.mem_append.1 hp with hp | hp
    · exact (hds p hp).slash
    · exact hps p hp
  · cases ds with
    | nil => exact hhead rfl
    | cons d ds => exact (shown_of_plain hds).2

theorem head?_joined {ps : List (List Char)} (h : Shown ps) : (joined ps).head? ≠ some '/' := by
  obtain ⟨hslash, hhead⟩ := h
  cases ps with
  | nil => exact nofun
  | cons p ps =>
    have hp := hslash p List.mem_cons_self
    cases p with
    | nil => exact absurd rfl hhead
    | cons c cs =>
      have hjoined : (joined ((c :: cs) :: ps)).head? = some c := by cases ps <;> rfl
      rw [hjoined]
      rintro ⟨⟩
      exact hp List.mem_cons_self

theorem joined_inj {ps qs : List (List Char)} (hps : Shown ps) (hqs : Shown qs)
    (h : joined ps = joined qs) : ps = qs := by
  -- Without parts, the text is empty, and an empty text has one part, which does not show.
  have hnil {ps : List (List Char)} (hps : Shown ps) (hne : ps ≠ []) : joined ps ≠ [] := by
    intro h
    have hparts := parts_joined hps.1 hne
    rw [h] at hparts
    exact hps.2 (by rw [← hparts]; rfl)
  by_cases hp : ps = []
  · subst hp
    by_cases hq : qs = []
    · exact hq.symm
    · exact absurd h.symm (hnil hqs hq)
  · by_cases hq : qs = []
    · subst hq
      exact absurd h (hnil hps hp)
    · rw [← parts_joined hps.1 hp, ← parts_joined hqs.1 hq, h]

theorem rootSlashes_append {root : List Char} (hroot : IsRoot root) {rest : List Char}
    (h : rest.head? ≠ some '/') : rootSlashes (root ++ rest) = root := by
  cases rest with
  | nil => rcases hroot with rfl | rfl <;> rfl
  | cons c cs =>
    have hc : c ≠ '/' := fun hc => h (by rw [hc]; rfl)
    rcases hroot with rfl | rfl <;> simp [rootSlashes, hc]

/-- A path has one root, and one list of parts behind it. -/
theorem root_joined_inj {root root' : List Char} (hroot : IsRoot root) (hroot' : IsRoot root')
    {ps qs : List (List Char)} (hps : Shown ps) (hqs : Shown qs)
    (h : root ++ joined ps = root' ++ joined qs) : root = root' ∧ ps = qs := by
  have hslashes : root = root' := by
    rw [← rootSlashes_append hroot (head?_joined hps), h,
      rootSlashes_append hroot' (head?_joined hqs)]
  subst hslashes
  exact ⟨rfl, joined_inj hps hqs (List.append_cancel_left h)⟩

theorem foldl_parts_append {root : List Char} (hroot : IsRoot root) (rest : List Char) :
    (parts (root ++ rest)).foldl (step true) [] = (parts rest).foldl (step true) [] := by
  rcases hroot with rfl | rfl <;> rfl

/-- The normal form of a path is that of its parts behind the same root. -/
theorem normal_joined {root : List Char} (hroot : IsRoot root) {ps : List (List Char)}
    (hps : Shown ps) :
    normal (root ++ joined ps) = root ++ joined (ps.foldl (step true) []).reverse := by
  have hne : root ≠ [] := by rcases hroot with rfl | rfl <;> exact List.cons_ne_nil _ _
  have hfold : (parts (joined ps)).foldl (step true) [] = ps.foldl (step true) [] := by
    by_cases hp : ps = []
    · subst hp
      rfl
    · rw [parts_joined hps.1 hp]
  simp only [normal, rootSlashes_append hroot (head?_joined hps)]
  rw [List.isEmpty_eq_false_iff.2 hne, Bool.not_false, foldl_parts_append hroot, hfold]
  exact if_neg (by simp [hne])

/-- A path that starts at the root and is its own normal form. -/
structure IsNormal (path : List Char) : Prop where
  rooted : path.head? = some '/'
  normal : normal path = path

/-- A normal path is a root with plain parts behind it. -/
theorem IsNormal.exists_parts {path : List Char} (h : IsNormal path) :
    ∃ root ps, IsRoot root ∧ (∀ p ∈ ps, IsPlain p) ∧ path = root ++ joined ps := by
  have hroot : IsRoot (rootSlashes path) := by
    have hrooted := h.rooted
    unfold rootSlashes
    split
    · exact .inl rfl
    · exact .inr rfl
    · exact .inl rfl
    · rename_i hslash
      cases path with
      | nil => cases hrooted
      | cons c cs =>
        cases hrooted
        exact absurd rfl (hslash cs)
  have hne : rootSlashes path ≠ [] := by
    rcases hroot with h | h <;> rw [h] <;> exact List.cons_ne_nil _ _
  refine ⟨rootSlashes path, ((parts path).foldl (step true) []).reverse, hroot, ?_, ?_⟩
  · intro p hp
    exact plain_foldl_step (fun p hp => slash_notMem_of_mem_parts hp) (by simp) p
      (List.mem_reverse.1 hp)
  · have hnormal := h.normal
    simp only [Path.normal] at hnormal
    rw [List.isEmpty_eq_false_iff.2 hne, if_neg (by simp [hne])] at hnormal
    exact hnormal.symm

theorem IsNormal.plain_of_shown {root : List Char} {ps : List (List Char)}
    (h : IsNormal (root ++ joined ps)) (hroot : IsRoot root) (hps : Shown ps) :
    ∀ p ∈ ps, IsPlain p := by
  obtain ⟨root', ps', hroot', hps', heq⟩ := h.exists_parts
  obtain ⟨-, rfl⟩ := root_joined_inj hroot hroot' hps (shown_of_plain hps') heq
  exact hps'

theorem plain_dot {p : List Char} (hslash : '/' ∉ p) (hne : p ≠ []) (hdot : p ≠ ['.']) :
    IsPlain ('.' :: p) where
  slash := List.not_mem_cons_of_ne_of_not_mem (by decide) hslash
  nonempty := List.cons_ne_nil _ _
  dot := by simpa using hne
  dots := by simpa using hdot

/-- Only plain parts are left of plain parts and a path that starts with a dot. -/
theorem shown_of_dot {ds : List (List Char)} (hds : ∀ d ∈ ds, IsPlain d) {p : List Char}
    {qs : List (List Char)} (hqs : ∀ q ∈ p :: qs, '/' ∉ q) :
    Shown (qs.foldl (step true) (step true ds.reverse ('.' :: p))).reverse := by
  rw [List.forall_mem_cons] at hqs
  have hstep : ∀ q ∈ step true ds.reverse ('.' :: p), IsPlain q :=
    plain_step (fun q hq => hds q (List.mem_reverse.1 hq))
      (List.not_mem_cons_of_ne_of_not_mem (by decide) hqs.1)
  exact shown_of_plain fun q hq => plain_foldl_step hqs.2 hstep q (List.mem_reverse.1 hq)

/-! ## Relative paths -/

theorem relative_append {directory : List Char} (h : directory ≠ []) (rest : List Char) :
    relative directory (directory ++ rest) = '.' :: rest := by
  rw [relative, if_pos, List.drop_left]
  simp [h]

/-- A path with plain parts does not end with a slash. -/
theorem endsWith_joined_concat {d : List Char} (hd : IsPlain d) (root : List Char)
    (ds : List (List Char)) : Text.endsWith '/' (root ++ joined (ds ++ [d])) = false := by
  have hjoined : ∃ before, root ++ joined (ds ++ [d]) = before ++ d := by
    by_cases hds : ds = []
    · exact ⟨root, by rw [hds]; rfl⟩
    · refine ⟨root ++ joined ds ++ ['/'], ?_⟩
      rw [joined_append hds (List.cons_ne_nil _ _), joined]
      simp
  obtain ⟨before, hbefore⟩ := hjoined
  have hlast := List.getLast?_eq_some_getLast hd.nonempty
  have hslash : d.getLast hd.nonempty ≠ '/' := fun h =>
    hd.slash (h ▸ List.getLast_mem hd.nonempty)
  rw [Text.endsWith, hbefore, List.getLast?_append, hlast]
  simpa using hslash

section Directory

variable {root : List Char} (hroot : IsRoot root) {ds : List (List Char)}
  (hds : ∀ d ∈ ds, IsPlain d)

include hroot hds

/-- A path that starts with a dot has it as the start of its first part behind the directory. -/
theorem resolve_dot (p : List Char) (qs : List (List Char)) :
    resolve (root ++ joined ds) ('.' :: joined (p :: qs)) =
      root ++ joined (ds ++ ('.' :: p) :: qs) := by
  have hcons : '.' :: joined (p :: qs) = joined (('.' :: p) :: qs) := by cases qs <;> rfl
  have hne : (root ++ joined ds).isEmpty = false := by rcases hroot with rfl | rfl <;> rfl
  have hdot : (('.' :: joined (p :: qs)).head? == some '/') = false := rfl
  rw [resolve, hdot, hne, if_neg Bool.false_ne_true, Bool.false_or]
  by_cases hnil : ds = []
  · subst hnil
    have hends : Text.endsWith '/' (root ++ joined []) = true := by
      rcases hroot with rfl | rfl <;> rfl
    rw [if_pos hends, hcons, List.nil_append, joined, List.append_nil]
  · have hends := endsWith_joined_concat (hds _ (List.getLast_mem hnil)) root ds.dropLast
    rw [List.dropLast_concat_getLast hnil] at hends
    rw [hends, if_neg Bool.false_ne_true, hcons, joined_append hnil (List.cons_ne_nil _ _),
      List.append_assoc]

/-- Seen from a directory, a path that starts with a dot goes on from the parts of the directory. -/
theorem absolute_dot {p : List Char} {qs : List (List Char)} (hqs : ∀ q ∈ p :: qs, '/' ∉ q) :
    absolute (root ++ joined ds) ('.' :: joined (p :: qs)) =
      root ++ joined (qs.foldl (step true) (step true ds.reverse ('.' :: p))).reverse := by
  have hshown : Shown (ds ++ ('.' :: p) :: qs) := by
    rw [List.forall_mem_cons] at hqs
    refine shown_append hds (List.forall_mem_cons.2 ⟨?_, hqs.2⟩) (by simp)
    exact List.not_mem_cons_of_ne_of_not_mem (by decide) hqs.1
  rw [absolute, resolve_dot hroot hds, normal_joined hroot hshown, List.foldl_append,
    foldl_step_plain hds, List.append_nil, List.foldl_cons]

/-- A dot alone leads to the directory, and a dot and a slash to what is in it. -/
theorem absolute_dot_within {qs : List (List Char)} (hqs : ∀ q ∈ qs, IsPlain q) :
    absolute (root ++ joined ds) ('.' :: joined ([] :: qs)) = root ++ joined (ds ++ qs) := by
  have hslash : ∀ q ∈ [] :: qs, '/' ∉ q :=
    List.forall_mem_cons.2 ⟨List.not_mem_nil, fun q hq => (hqs q hq).slash⟩
  have hstep : step true ds.reverse ['.'] = ds.reverse := rfl
  rw [absolute_dot hroot hds hslash, hstep, foldl_step_plain hqs, List.reverse_append,
    List.reverse_reverse, List.reverse_reverse]

end Directory

/-- In the root directory, a dot with other text behind it becomes the start of a name. -/
theorem absolute_dot_ne_of_root {root : List Char} (hroot : IsRoot root) {p : List Char}
    {qs : List (List Char)} (hp : p ≠ []) (hqs : ∀ q ∈ p :: qs, '/' ∉ q)
    (h : IsNormal (root ++ joined (p :: qs))) :
    absolute root ('.' :: joined (p :: qs)) ≠ root ++ joined (p :: qs) := by
  have hshown : Shown (p :: qs) := ⟨hqs, by simpa using hp⟩
  have hplain := List.forall_mem_cons.1 (h.plain_of_shown hroot hshown)
  intro heq
  have habsolute : absolute (root ++ joined []) _ = _ := absolute_dot hroot (by simp) hqs
  rw [joined, List.append_nil] at habsolute
  obtain ⟨-, hparts⟩ := root_joined_inj hroot hroot (shown_of_dot (by simp) hqs) hshown
    (habsolute.symm.trans heq)
  rw [step_plain (plain_dot hplain.1.slash hp hplain.1.dot), foldl_step_plain hplain.2] at hparts
  simp at hparts

/-- In any other directory, a dot with other text behind it becomes a part of its own, or takes a
part away. -/
theorem absolute_dot_ne_of_parts {root : List Char} (hroot : IsRoot root)
    {ds : List (List Char)} {d : List Char} (hds : ∀ e ∈ ds ++ [d], IsPlain e) {p : List Char}
    {qs : List (List Char)} (hp : p ≠ []) (hqs : ∀ q ∈ p :: qs, '/' ∉ q)
    (h : IsNormal (root ++ joined (ds ++ (d ++ p) :: qs))) :
    absolute (root ++ joined (ds ++ [d])) ('.' :: joined (p :: qs)) ≠
      root ++ joined (ds ++ (d ++ p) :: qs) := by
  have hslash := List.forall_mem_cons.1 hqs
  have hd : IsPlain d := hds d (by simp)
  have hshown : Shown (ds ++ (d ++ p) :: qs) := by
    refine shown_append (fun e he => hds e (List.mem_append_left _ he)) ?_ (by simp [hp])
    exact List.forall_mem_cons.2 ⟨by simp [hd.slash, hslash.1], hslash.2⟩
  have hplain := h.plain_of_shown hroot hshown
  intro heq
  obtain ⟨-, hparts⟩ := root_joined_inj hroot hroot (shown_of_dot hds hqs) hshown
    ((absolute_dot hroot hds hqs).symm.trans heq)
  -- The path has one part more than the directory has before it, and as many as are left behind it.
  have hlength := congrArg List.length hparts
  rw [foldl_step_plain fun q hq => hplain q (by simp [hq])] at hlength
  by_cases hdot : p = ['.']
  · subst hdot
    have hback : step true (ds ++ [d]).reverse ['.', '.'] = ds.reverse := by
      simp [step, hd.dots]
    rw [hback] at hlength
    simp at hlength
  · rw [step_plain (plain_dot hslash.1 hp hdot)] at hlength
    simp at hlength

/-- A normal path has at most two slashes at its start. -/
theorem IsNormal.eq_root {root rest : List Char} (hroot : IsRoot root)
    (h : IsNormal (root ++ '/' :: rest)) :
    root = ['/'] ∧ ∃ ps, (∀ p ∈ ps, IsPlain p) ∧ root ++ '/' :: rest = ['/', '/'] ++ joined ps := by
  obtain ⟨root', ps, hroot', hps, heq⟩ := h.exists_parts
  have hhead := head?_joined (shown_of_plain hps)
  rcases hroot with rfl | rfl <;> rcases hroot' with rfl | rfl
  · rw [← List.append_cancel_left heq] at hhead
    exact absurd rfl hhead
  · exact ⟨rfl, ps, hps, heq⟩
  · have heq : ['/'] ++ '/' :: '/' :: rest = ['/'] ++ joined ps := heq
    rw [← List.append_cancel_left heq] at hhead
    exact absurd rfl hhead
  · rw [← List.append_cancel_left heq] at hhead
    exact absurd rfl hhead

/-- In the root directory, a dot does not lead to a path with a slash more. -/
theorem absolute_dot_slash_ne_of_root {root rest : List Char} (hroot : IsRoot root)
    (h : IsNormal (root ++ '/' :: rest)) :
    absolute root ('.' :: '/' :: rest) ≠ root ++ '/' :: rest := by
  obtain ⟨rfl, ps, hps, heq⟩ := h.eq_root hroot
  have hslash : ∀ q ∈ [] :: parts rest, '/' ∉ q :=
    List.forall_mem_cons.2 ⟨List.not_mem_nil, fun q hq => slash_notMem_of_mem_parts hq⟩
  have habsolute : absolute (['/'] ++ joined []) _ = _ := absolute_dot hroot (by simp) hslash
  rw [joined, List.append_nil, joined_nil_parts] at habsolute
  rw [habsolute, heq]
  intro hroots
  obtain ⟨hroots, -⟩ := root_joined_inj hroot (.inr rfl) (shown_of_dot (by simp) hslash)
    (shown_of_plain hps) hroots
  exact absurd hroots (by decide)

/-- A dot leads to the directory itself. -/
theorem absolute_dot_self {directory : List Char} (h : IsNormal directory) :
    absolute directory ['.'] = directory := by
  obtain ⟨root, ds, hroot, hds, rfl⟩ := h.exists_parts
  have hself := absolute_dot_within hroot hds (List.forall_mem_nil IsPlain)
  rwa [List.append_nil] at hself

/-- Outside of the root directory, a dot and a slash lead to what is in the directory. -/
theorem absolute_dot_slash {directory rest : List Char} (hd : IsNormal directory)
    (hne : directory ≠ ['/']) (h : IsNormal (directory ++ '/' :: rest)) :
    absolute directory ('.' :: '/' :: rest) = directory ++ '/' :: rest := by
  obtain ⟨root, ds, hroot, hds, rfl⟩ := hd.exists_parts
  by_cases hnil : ds = []
  · subst hnil
    rw [joined, List.append_nil] at h hne
    exact absurd (h.eq_root hroot).1 hne
  · have hdirectory : root ++ joined ds ++ '/' :: rest = root ++ joined (ds ++ parts rest) := by
      rw [joined_append hnil (parts_ne_nil rest), joined_parts, List.append_assoc]
    have hshown : Shown (ds ++ parts rest) :=
      shown_append hds (fun p hp => slash_notMem_of_mem_parts hp) fun h => absurd h hnil
    rw [hdirectory] at h ⊢
    have hplain := h.plain_of_shown hroot hshown
    have hwithin := absolute_dot_within hroot hds fun q hq => hplain q (List.mem_append_right _ hq)
    rwa [joined_nil_parts] at hwithin

/-- A dot and anything else do not lead to a path that goes on where the directory ends. -/
theorem absolute_dot_ne_of_beside {directory rest : List Char} (hd : IsNormal directory)
    (hne : rest ≠ []) (hslash : rest.head? ≠ some '/') (h : IsNormal (directory ++ rest)) :
    absolute directory ('.' :: rest) ≠ directory ++ rest := by
  obtain ⟨root, ds, hroot, hds, rfl⟩ := hd.exists_parts
  obtain ⟨p, qs, hparts⟩ := List.exists_cons_of_ne_nil (parts_ne_nil rest)
  have hrest : joined (p :: qs) = rest := by rw [← hparts, joined_parts]
  have hqs : ∀ q ∈ p :: qs, '/' ∉ q := fun q hq => slash_notMem_of_mem_parts (hparts ▸ hq)
  have hp : p ≠ [] := by
    rintro rfl
    cases qs with
    | nil => exact hne hrest.symm
    | cons q qs => exact hslash (by rw [← hrest]; rfl)
  subst hrest
  by_cases hnil : ds = []
  · subst hnil
    rw [joined, List.append_nil] at h ⊢
    exact absolute_dot_ne_of_root hroot hp hqs h
  · have hconcat := List.dropLast_concat_getLast hnil
    generalize ds.dropLast = init at hconcat
    generalize ds.getLast hnil = d at hconcat
    subst hconcat
    rw [List.append_assoc, joined_concat_append] at h ⊢
    exact absolute_dot_ne_of_parts hroot hds hp hqs h

/-- A relative path leads back to the path if and only if the text of the directory is not at the
start of the path, or a part of the path ends where the directory does. In the root directory this
is the directory itself and nothing else, since no slash is left behind the dot. -/
theorem absolute_relative_iff {directory path : List Char} (hd : IsNormal directory)
    (hp : IsNormal path) :
    absolute directory (relative directory path) = path ↔
      (directory <+: path →
        path = directory ∨ (directory ≠ ['/'] ∧ directory ++ ['/'] <+: path)) := by
  by_cases hstart : directory <+: path
  · obtain ⟨rest, rfl⟩ := hstart
    have hne : directory ≠ [] := fun h => by rw [h] at hd; cases hd.rooted
    rw [relative_append hne, imp_iff_right (List.prefix_append _ _)]
    cases rest with
    | nil =>
      rw [List.append_nil]
      exact iff_of_true (absolute_dot_self hd) (.inl rfl)
    | cons c cs =>
      have hpath : directory ++ c :: cs ≠ directory := by simp
      have hslash : directory ++ ['/'] <+: directory ++ c :: cs ↔ c = '/' := by
        simp [List.prefix_append_right_inj, eq_comm]
      rw [or_iff_right hpath, hslash]
      by_cases hc : c = '/'
      · subst hc
        by_cases hroot : directory = ['/']
        · subst hroot
          exact iff_of_false (absolute_dot_slash_ne_of_root (.inl rfl) hp) (by simp)
        · exact iff_of_true (absolute_dot_slash hd hroot hp) ⟨hroot, rfl⟩
      · have hhead : (c :: cs).head? ≠ some '/' := by simpa using hc
        exact iff_of_false (absolute_dot_ne_of_beside hd (List.cons_ne_nil c cs) hhead hp)
          fun h => hc h.2
  · have hrelative : relative directory path = path := by
      rw [relative, if_neg (by simp [hstart])]
    have hresolve : resolve directory path = path := by
      rw [resolve, hp.rooted]
      rfl
    rw [hrelative, absolute, hresolve]
    exact iff_of_true hp.normal fun h => absurd h hstart

end SqlAudit.Path
