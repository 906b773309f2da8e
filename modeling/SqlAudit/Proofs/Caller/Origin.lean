import SqlAudit.Proofs.Caller.Path
import SqlAudit.Render.Context

/-!
# Where a query comes from

A query that a script asks for is described by the call that asked: the innermost one from outside
of the package. Whether a call is from outside is told from the start of its path as a text, and so
is the path that is shown relative to the working directory. Both go wrong for files and directories
whose name only begins like that of the directory. Main statements:

* `Frame.caller?_of_split`, `Frame.exists_caller`: the call that is found, by its place;
* `innermost_outside_described`: when that is the innermost call from outside;
* `longer_name_passed_over`: a directory with a longer name is taken for the package;
* `relative_path_leads_back_iff`: when the relative path leads back to the file that was called;
* `longer_name_misleads`: a file with a longer name is taken for one in the working directory.
-/

namespace SqlAudit

/-- A path is that of a directory or of something in it. -/
def Path.IsWithin (directory path : List Char) : Prop :=
  path = directory ∨ directory ++ ['/'] <+: path

instance (directory path : List Char) : Decidable (Path.IsWithin directory path) :=
  decidable_of_iff (path = directory ∨ (directory ++ ['/']).isPrefixOf path = true)
    (by rw [Path.IsWithin, List.isPrefixOf_iff_prefix])

theorem Path.IsWithin.start {directory path : List Char} (h : IsWithin directory path) :
    directory <+: path := by
  rcases h with rfl | h
  · exact List.prefix_refl _
  · exact (List.prefix_append directory ['/']).trans h

namespace Frame

/-- The call is made by code of a package. -/
def IsInside (f : Frame) (directory packageRoot : String) : Prop :=
  Path.IsWithin packageRoot.toList (Path.absolute directory.toList f.file.toList)

instance (f : Frame) (directory packageRoot : String) :
    Decidable (f.IsInside directory packageRoot) :=
  inferInstanceAs (Decidable (Path.IsWithin _ _))

/-- The call is made by code whose path begins with the text of the path of a package. -/
def BeginsLike (f : Frame) (directory packageRoot : String) : Prop :=
  packageRoot.toList <+: Path.absolute directory.toList f.file.toList

/-- The first call, from the inside, that satisfies a predicate; the last of all if none does. -/
def IsInnermost (P : Frame → Prop) (calls : List Frame) (f : Frame) : Prop :=
  ∃ inner outer, calls = inner ++ f :: outer ∧ (∀ g ∈ inner, ¬ P g) ∧ (P f ∨ outer = [])

section Stack

variable {directory packageRoot : String} {f : Frame}

theorem isWithin_iff : f.isWithin directory packageRoot = true ↔
    f.BeginsLike directory packageRoot := by
  rw [isWithin, BeginsLike, List.isPrefixOf_iff_prefix]

/-- The call that is found has only calls before it whose paths begin like the package's, and its
own does not, or there is nothing behind it. -/
theorem caller?_of_split {inner outer : List Frame}
    (hinner : ∀ g ∈ inner, g.BeginsLike directory packageRoot)
    (hf : ¬ f.BeginsLike directory packageRoot ∨ outer = []) (self : Frame) :
    caller? (self :: (inner ++ f :: outer)) directory packageRoot = some f := by
  have hskip : inner.find? (fun g => !g.isWithin directory packageRoot) = none :=
    List.find?_eq_none.2 fun g hg => by simp [isWithin_iff.2 (hinner g hg)]
  rw [caller?, List.tail_cons, List.find?_append, hskip, Option.none_or, List.find?_cons]
  cases hw : f.isWithin directory packageRoot with
  | false => rfl
  | true =>
    obtain rfl : outer = [] := hf.resolve_left (not_not_intro (isWithin_iff.1 hw))
    simp

/-- Among the calls behind the first, there is one to be found. -/
theorem exists_caller {calls : List Frame} (hne : calls ≠ []) (directory packageRoot : String) :
    ∃ f, IsInnermost (fun g => ¬ g.BeginsLike directory packageRoot) calls f := by
  cases hfind : calls.find? fun g => !g.isWithin directory packageRoot with
  | some f =>
    obtain ⟨hf, inner, outer, rfl, hinner⟩ := List.find?_eq_some_iff_append.1 hfind
    refine ⟨f, inner, outer, rfl, fun g hg => ?_, .inl ?_⟩
    · exact not_not_intro (isWithin_iff.1 (by simpa using hinner g hg))
    · show ¬ f.BeginsLike directory packageRoot
      rw [← isWithin_iff]
      simpa using hf
  | none =>
    refine ⟨calls.getLast hne, calls.dropLast, [], (List.dropLast_concat_getLast hne).symm,
      fun g hg => ?_, .inr rfl⟩
    have hg := List.find?_eq_none.1 hfind g (List.dropLast_subset _ hg)
    exact not_not_intro (isWithin_iff.1 (by simpa using hg))

theorem caller?_of_isInnermost {calls : List Frame}
    (h : IsInnermost (fun g => ¬ g.BeginsLike directory packageRoot) calls f) (self : Frame) :
    caller? (self :: calls) directory packageRoot = some f := by
  obtain ⟨inner, outer, rfl, hinner, hf⟩ := h
  exact caller?_of_split (fun g hg => Classical.not_not.1 (hinner g hg)) hf self

end Stack

end Frame

namespace Context

/-- The context names the file, the line and the function of a call. -/
def Describes (c : Context) (f : Frame) : Prop :=
  c.get? "file" = some (.text f.file) ∧ c.get? "line" = some (.int f.line) ∧
    c.get? "function" = some (.text f.function)

section Stack

variable {stack : List Frame} {directory packageRoot : String} {f : Frame}
  (h : Frame.caller? stack directory packageRoot = some f) (arguments : List String)

include h

theorem describes_ofStack : (ofStack stack directory packageRoot arguments).Describes f := by
  simp only [ofStack, h, Option.getD_some]
  exact ⟨rfl, rfl, rfl⟩

theorem get?_file_relative (hf : f.file ≠ "unknown") :
    (ofStack stack directory packageRoot arguments).get? "file_relative" =
      some (.text (String.ofList (Path.relative directory.toList f.file.toList))) := by
  simp only [ofStack, h, Option.getD_some, if_neg hf]
  rfl

end Stack

end Context

/-- A context describes one of the calls behind the first, if there are any: the innermost call
whose path does not begin with the text of the path of the package, and the outermost call if there
is none. This is the innermost call from outside of the package (and the outermost call if there is
none from outside), unless that call is made from a path that only begins like the package's. Such a
call is passed over if there is another one behind it, and one of those behind it is described. -/
theorem innermost_outside_described (self : Frame) {calls : List Frame} (hne : calls ≠ [])
    (directory packageRoot : String) (arguments : List String) :
    let context := Context.ofStack (self :: calls) directory packageRoot arguments
    (∃ f, Frame.IsInnermost (fun g => ¬ g.BeginsLike directory packageRoot) calls f ∧
      context.Describes f) ∧
    (∀ f, Frame.IsInnermost (fun g => ¬ g.IsInside directory packageRoot) calls f →
      (f.BeginsLike directory packageRoot → f.IsInside directory packageRoot) →
      context.Describes f) ∧
    ∀ inner f outer, calls = inner ++ f :: outer →
      (∀ g ∈ inner, g.IsInside directory packageRoot) → ¬ f.IsInside directory packageRoot →
      f.BeginsLike directory packageRoot → outer ≠ [] →
      ∃ g, Frame.IsInnermost (fun g => ¬ g.BeginsLike directory packageRoot) outer g ∧
        context.Describes g := by
  intro context
  refine ⟨?_, ?_, ?_⟩
  · obtain ⟨f, hf⟩ := Frame.exists_caller hne directory packageRoot
    exact ⟨f, hf, Context.describes_ofStack (Frame.caller?_of_isInnermost hf self) arguments⟩
  · rintro f ⟨inner, outer, rfl, hinner, hf⟩ hlike
    have hbefore : ∀ g ∈ inner, g.BeginsLike directory packageRoot := fun g hg =>
      (Classical.not_not.1 (hinner g hg)).start
    refine Context.describes_ofStack (Frame.caller?_of_split hbefore ?_ self) arguments
    exact hf.imp_left fun houtside hbegins => houtside (hlike hbegins)
  · intro inner f outer hcalls hinner _ hlike houter
    obtain ⟨g, hg⟩ := Frame.exists_caller houter directory packageRoot
    refine ⟨g, hg, Context.describes_ofStack ?_ arguments⟩
    obtain ⟨between, beyond, rfl, hbetween, hgs⟩ := hg
    have hbefore : ∀ g ∈ inner ++ f :: between, g.BeginsLike directory packageRoot := by
      intro g hg
      rcases List.mem_append.1 hg with hg | hg
      · exact (hinner g hg).start
      · rcases List.mem_cons.1 hg with rfl | hg
        · exact hlike
        · exact Classical.not_not.1 (hbetween g hg)
    have hfound := Frame.caller?_of_split hbefore hgs self
    rwa [List.append_assoc, List.cons_append, ← hcalls] at hfound

/-- A script beside the package is described, whoever called it, and so is the outermost call if all
are inside. -/
theorem script_beside_package_described :
    let self : Frame := ⟨"/app/guard/context.py", 31, "capture"⟩
    let service : Frame := ⟨"guard/./service.py", 88, "validate"⟩
    let script : Frame := ⟨"../app/run.py", 7, "main"⟩
    (Context.ofStack [self, service, script, self] "/app" "/app/guard" []).Describes script ∧
      (Context.ofStack [self, script, service] "/app" "/app" []).Describes service := by
  intro self service script
  refine ⟨?_, ?_⟩
  · refine (innermost_outside_described self (List.cons_ne_nil service [script, self]) "/app"
      "/app/guard" []).2.1 script ⟨[service], [self], rfl, ?_, .inl (by decide)⟩ ?_
    · simp only [List.forall_mem_singleton]
      decide
    · exact fun h => absurd (Frame.isWithin_iff.2 h) (by decide)
  · refine (innermost_outside_described self (List.cons_ne_nil script [service]) "/app"
      "/app" []).2.1 service ⟨[script], [], rfl, ?_, .inr rfl⟩ fun _ => by decide
    simp only [List.forall_mem_singleton]
    decide

/-- A call from a directory with a longer name is the innermost one from outside of the package, and
is not the one that is described. -/
theorem longer_name_passed_over :
    let self : Frame := ⟨"/app/guard/context.py", 31, "capture"⟩
    let plugin : Frame := ⟨"/app/guard_plugin/audit.py", 12, "audit"⟩
    let script : Frame := ⟨"/app/run.py", 7, "main"⟩
    Frame.IsInnermost (fun g => ¬ g.IsInside "/app" "/app/guard") [plugin, script] plugin ∧
      (Context.ofStack [self, plugin, script] "/app" "/app/guard" []).Describes script ∧
      ¬ (Context.ofStack [self, plugin, script] "/app" "/app/guard" []).Describes plugin := by
  intro self plugin script
  have hfound : Frame.caller? [self, plugin, script] "/app" "/app/guard" = some script := by decide
  have hscript := Context.describes_ofStack hfound []
  refine ⟨⟨[], [script], rfl, by simp, .inl (by decide)⟩, hscript, fun hplugin => ?_⟩
  have hfile := Option.some.inj (hscript.1.symm.trans hplugin.1)
  simp [Value.text, script, plugin] at hfile

/-! ## Relative paths -/

/-- The path of a file relative to the working directory is the one that a context shows for it.
Both paths being normal, it leads back to the file if and only if the file is in the working
directory and that is not the root directory, or the file is the working directory itself, or the
path of the file does not even begin with the text of that of the working directory. -/
theorem relative_path_leads_back_iff {directory file : String}
    (hdirectory : Path.IsNormal directory.toList) (hfile : Path.IsNormal file.toList) :
    let path := Path.relative directory.toList file.toList
    (∀ stack packageRoot arguments line function,
      Frame.caller? stack directory packageRoot = some ⟨file, line, function⟩ →
      (Context.ofStack stack directory packageRoot arguments).get? "file_relative" =
        some (.text (String.ofList path))) ∧
    (Path.absolute directory.toList path = file.toList ↔
      (directory.toList <+: file.toList → file = directory ∨
        (directory ≠ "/" ∧ directory.toList ++ ['/'] <+: file.toList))) := by
  intro path
  refine ⟨fun stack packageRoot arguments line function hcaller => ?_, ?_⟩
  · have hunknown : file ≠ "unknown" := by
      rintro rfl
      exact absurd hfile.rooted (by decide)
    exact Context.get?_file_relative hcaller arguments hunknown
  · have hroot : directory.toList = ['/'] ↔ directory = "/" := by
      rw [← String.toList_inj]
      rfl
    rw [Path.absolute_relative_iff hdirectory hfile, ne_eq, hroot, String.toList_inj]

/-- The path of a file in the working directory leads back to it, and so does that of a file in a
directory that it is not in. -/
theorem file_in_directory_leads_back :
    Path.absolute "/srv/app".toList
        (Path.relative "/srv/app".toList "/srv/app/.env/run.py".toList) =
        "/srv/app/.env/run.py".toList ∧
      Path.absolute "/srv/app".toList (Path.relative "/srv/app".toList "/srv/run.py".toList) =
        "/srv/run.py".toList := by
  have hdirectory : Path.IsNormal "/srv/app".toList := ⟨by decide, by decide⟩
  refine ⟨?_, ?_⟩
  · refine (relative_path_leads_back_iff hdirectory ⟨by decide, by decide⟩).2.2 fun _ => ?_
    exact .inr ⟨by decide, ".env/run.py".toList, by decide⟩
  · refine (relative_path_leads_back_iff hdirectory ⟨by decide, by decide⟩).2.2 fun h => ?_
    exact absurd (List.isPrefixOf_iff_prefix.2 h) (by decide)

/-- The path of a file whose name only begins like that of the working directory leads to another
file, in the working directory. In the root directory, the path of any file does. -/
theorem longer_name_misleads :
    Path.IsNormal "/srv/app".toList ∧ Path.IsNormal "/srv/apple.py".toList ∧
      Path.absolute "/srv/app".toList (Path.relative "/srv/app".toList "/srv/apple.py".toList) =
        "/srv/app/.le.py".toList ∧
      Path.IsNormal "/".toList ∧
      Path.absolute "/".toList (Path.relative "/".toList "/srv/apple.py".toList) =
        "/.srv/apple.py".toList ∧
      "/srv/apple.py".toList ∉ ["/srv/app/.le.py".toList, "/.srv/apple.py".toList] :=
  ⟨⟨by decide, by decide⟩, ⟨by decide, by decide⟩, by decide, ⟨by decide, by decide⟩, by decide,
    by decide⟩

end SqlAudit
