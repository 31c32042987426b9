/-
Saving a bridge profile (`bridge_profiles.rs`): the request is checked, the old
file of a renamed profile is removed and the new content is written.  Every file
operation may fail, and a write may fail with a part of the content written.
-/
import IlinkHub.ProfileIds
import IlinkHub.ProfileYaml

namespace IlinkHub

open Function

structure SaveBridgeProfileRequest where
  originalId : Option String
  id : String
  template : String
  cwd : String
  envVars : Option (List EnvVar)
  yaml : Option String
deriving Repr, DecidableEq

def buildBridgeProfileYaml (req : SaveBridgeProfileRequest) : Except String String :=
  let envVars := req.envVars.getD []
  if req.template = "claude" then buildClaudeProfileYaml req.cwd envVars
  else if req.template = "cursor" then
    buildSimpleCommandYaml "agent" ["-p", "\x7b\x7bMESSAGE\x7d\x7d"] req.cwd envVars
  else if req.template = "codex" then
    buildSimpleCommandYaml "codex" ["exec", "\x7b\x7bMESSAGE\x7d\x7d"] req.cwd envVars
  else if req.template = "gemini" then
    buildSimpleCommandYaml "gemini" ["-p", "\x7b\x7bMESSAGE\x7d\x7d"] req.cwd envVars
  else if req.template = "custom" then
    match (req.yaml.map Text.trim).filter (· ≠ "") with
    | some yaml => .ok (yaml ++ "\n")
    | none => .error "请填写 YAML"
  else
    let other := req.template
    .error s!"未知模板: {other}"

namespace ProfileSave

/-- The profiles directory: the contents of its files. -/
abbrev Files :=
  String → Option String

inductive WriteFault
  | opening
  | writing (written : Nat)
deriving Repr, DecidableEq

/-- Which operations of one save fail.  A query that fails says that there is no
such file; there is one round of queries for the new name and one for the old. -/
structure Faults where
  reason : String
  createDir : Bool
  target : String → Bool
  original : String → Bool
  remove : Bool
  write : Option WriteFault

/-- A request that passed its checks, with the name of the file to write. -/
structure Plan where
  id : String
  yaml : String
  stem : String
  originalId : Option String

structure Saved where
  id : String
  path : String
  yaml : String
deriving Repr, DecidableEq

def createDirAll (faults : Faults) : Except String Unit :=
  if faults.createDir then .error ("创建 profile 目录失败: " ++ faults.reason) else .ok ()

/-- The checks, with the outcome of `create_dir_all` between them. -/
def prepare (parseYaml : String → Except String Unit) (dir : Except String Unit)
    (req : SaveBridgeProfileRequest) : Except String Plan := do
  let id ← sanitizeProfileFileId req.id
  let yaml ← buildBridgeProfileYaml req
  parseYaml yaml
  dir
  let originalId ← req.originalId.mapM sanitizeProfileFileId
  -- `profile_path` and `existing_profile_path` sanitise the id once more.
  let stem ← sanitizeProfileFileId id
  return ⟨id, yaml, stem, originalId⟩

/-- `existing_profile_path` for the sanitised id. -/
def existingProfilePath (failing : String → Bool) (files : Files) (stem : String) : Option String :=
  [stem ++ ".yaml", stem ++ ".yml"].find? fun path => (files path).isSome && !failing path

/-- `tokio::fs::write` opens the file, which empties it, and then writes. -/
def write (faults : Faults) (plan : Plan) (path : String) (files : Files) :
    Except String Saved × Files :=
  match faults.write with
  | none => (.ok ⟨plan.id, path, plan.yaml⟩, update files path (some plan.yaml))
  | some .opening => (.error ("保存 profile 失败: " ++ faults.reason), files)
  | some (.writing n) => (.error ("保存 profile 失败: " ++ faults.reason),
      update files path (some (String.ofList (plan.yaml.toList.take n))))

def store (faults : Faults) (plan : Plan) (files : Files) : Except String Saved × Files :=
  let path := plan.stem ++ ".yaml"
  let target := existingProfilePath faults.target files plan.stem
  if plan.originalId ≠ some plan.id then
    if target.isSome then
      let id := plan.id
      (.error s!"profile `{id}` 已存在，请换一个 workspace 名称", files)
    else
      match plan.originalId with
      | none => write faults plan path files
      | some original =>
        match sanitizeProfileFileId original with
        | .error e => (.error e, files)
        | .ok stem =>
          match existingProfilePath faults.original files stem with
          | none => write faults plan path files
          | some old =>
            if faults.remove then (.error ("删除旧 profile 失败: " ++ faults.reason), files)
            else write faults plan path (update files old none)
  else write faults plan (target.getD path) files

end ProfileSave

open ProfileSave

def bridgeSaveProfile (parseYaml : String → Except String Unit) (faults : Faults)
    (req : SaveBridgeProfileRequest) (files : Files) : Except String Saved × Files :=
  match prepare parseYaml (createDirAll faults) req with
  | .error e => (.error e, files)
  | .ok plan => store faults plan files

namespace ProfileSave

/-- All or nothing: after an error every file is there with its content. -/
def AllOrNothing (parseYaml : String → Except String Unit) (req : SaveBridgeProfileRequest)
    (files : Files) : Prop :=
  ∀ faults e files', bridgeSaveProfile parseYaml faults req files = (.error e, files') →
    ∀ path content, files path = some content → files' path = some content

/-- The request passes its checks, and there is a file under the new name or under
the old one. -/
def Endangered (parseYaml : String → Except String Unit) (req : SaveBridgeProfileRequest)
    (files : Files) : Prop :=
  ∃ plan, prepare parseYaml (.ok ()) req = .ok plan ∧
    match plan.originalId with
    | none => files (plan.stem ++ ".yaml") ≠ none
    | some original => ∃ old, sanitizeProfileFileId original = .ok old ∧
      (files (plan.stem ++ ".yaml") ≠ none ∨ files (old ++ ".yaml") ≠ none ∨
        files (old ++ ".yml") ≠ none)

section Operations

variable {faults : Faults} {plan : Plan} {files : Files} {path content : String}

lemma write_keeps (hcontent : files path = some content) {target : String}
    (hfree : files target = none) : (write faults plan target files).2 path = some content := by
  have hne : path ≠ target := by
    rintro rfl
    simp [hfree] at hcontent
  unfold write
  split
  · exact (update_of_ne hne _ _).trans hcontent
  · exact hcontent
  · exact (update_of_ne hne _ _).trans hcontent

/-- A write that fails in the middle leaves another content. -/
lemma exists_write_loses (hyaml : plan.yaml.toList ≠ []) (content : String) :
    ∃ n, String.ofList (plan.yaml.toList.take n) ≠ content := by
  by_cases hempty : content = ""
  · exact ⟨1, by simp [hempty, hyaml]⟩
  · exact ⟨0, by simpa using Ne.symm hempty⟩

lemma existing_of_failing (stem : String) :
    existingProfilePath (fun _ => true) files stem = none := by
  simp [existingProfilePath]

lemma existing_of_free {failing : String → Bool} {stem : String}
    (hyaml : files (stem ++ ".yaml") = none) (hyml : files (stem ++ ".yml") = none) :
    existingProfilePath failing files stem = none := by
  simp [existingProfilePath, hyaml, hyml]

lemma exists_existing {stem : String}
    (hfile : files (stem ++ ".yaml") ≠ none ∨ files (stem ++ ".yml") ≠ none) :
    ∃ found content, existingProfilePath (fun _ => false) files stem = some found ∧
      files found = some content := by
  cases hyaml : files (stem ++ ".yaml") with
  | some content => exact ⟨_, content, by simp [existingProfilePath, hyaml], hyaml⟩
  | none =>
    obtain ⟨content, hyml⟩ := Option.ne_none_iff_exists'.mp
      (hfile.resolve_left fun hne => hne hyaml)
    exact ⟨_, content, by simp [existingProfilePath, hyaml, hyml], hyml⟩

end Operations

variable {req : SaveBridgeProfileRequest}

lemma buildBridgeProfileYaml_ne_nil {yaml : String}
    (hbuilt : buildBridgeProfileYaml req = .ok yaml) : yaml.toList ≠ [] := by
  have hclaude : ∀ {cwd envVars}, buildClaudeProfileYaml cwd envVars = .ok yaml →
      yaml.toList ≠ [] := by
    intro cwd envVars hok
    unfold buildClaudeProfileYaml at hok
    split at hok
    · cases hok
    · rw [← Except.ok.inj hok, String.toList_ofList]
      exact List.cons_ne_nil _ _
  have hcommand : ∀ {command args cwd envVars},
      buildSimpleCommandYaml command args cwd envVars = .ok yaml → yaml.toList ≠ [] := by
    intro command args cwd envVars hok
    rw [ProfileYaml.toList_of_buildSimpleCommandYaml hok]
    exact List.cons_ne_nil _ _
  unfold buildBridgeProfileYaml at hbuilt
  split at hbuilt
  · exact hclaude hbuilt
  split at hbuilt
  · exact hcommand hbuilt
  split at hbuilt
  · exact hcommand hbuilt
  split at hbuilt
  · exact hcommand hbuilt
  split at hbuilt
  · split at hbuilt
    · rw [← Except.ok.inj hbuilt]
      simp
    · cases hbuilt
  · cases hbuilt

lemma of_prepare {parseYaml : String → Except String Unit} {dir : Except String Unit}
    {plan : Plan} (hok : prepare parseYaml dir req = .ok plan) :
    dir = .ok () ∧ plan.yaml.toList ≠ [] ∧ sanitizeProfileFileId plan.id = .ok plan.stem := by
  have hbind : ∀ {α β : Type} {x : Except String α} {f : α → Except String β} {b : β},
      x >>= f = .ok b → ∃ a, x = .ok a ∧ f a = .ok b := by
    intro α β x f b hx
    cases x with
    | error e => cases hx
    | ok a => exact ⟨a, rfl, hx⟩
  obtain ⟨id, -, hok⟩ := hbind hok
  obtain ⟨yaml, hyaml, hok⟩ := hbind hok
  obtain ⟨-, -, hok⟩ := hbind hok
  obtain ⟨⟨⟩, hdir, hok⟩ := hbind hok
  obtain ⟨originalId, -, hok⟩ := hbind hok
  obtain ⟨stem, hstem, hok⟩ := hbind hok
  cases hok
  exact ⟨hdir, buildBridgeProfileYaml_ne_nil hyaml, hstem⟩

variable {parseYaml : String → Except String Unit} {plan : Plan} {files : Files}

section Losses

variable (hplan : prepare parseYaml (.ok ()) req = .ok plan)

include hplan

lemma bridgeSaveProfile_eq_store {faults : Faults} (hdir : faults.createDir = false) :
    bridgeSaveProfile parseYaml faults req files = store faults plan files := by
  have hcreate : createDirAll faults = .ok () := by simp [createDirAll, hdir]
  rw [bridgeSaveProfile, hcreate, hplan]

/-- A write into an existing file may fail in the middle. -/
lemma not_allOrNothing_of_write {path : String} (hpath : files path ≠ none)
    (target original : String → Bool)
    (hto : ∀ n, store ⟨"", false, target, original, false, some (.writing n)⟩ plan files =
      write ⟨"", false, target, original, false, some (.writing n)⟩ plan path files) :
    ¬ AllOrNothing parseYaml req files := by
  intro hall
  obtain ⟨content, hcontent⟩ := Option.ne_none_iff_exists'.mp hpath
  obtain ⟨n, hn⟩ := exists_write_loses (of_prepare hplan).2.1 content
  have hkept := hall _ _ _ ((bridgeSaveProfile_eq_store hplan rfl).trans (hto n)) path content
    hcontent
  rw [update_self, Option.some.injEq] at hkept
  exact hn hkept

lemma not_allOrNothing_of_unchanged (horiginal : plan.originalId = some plan.id)
    (hfile : files (plan.stem ++ ".yaml") ≠ none ∨ files (plan.stem ++ ".yml") ≠ none) :
    ¬ AllOrNothing parseYaml req files := by
  obtain ⟨found, content, hfound, hcontent⟩ := exists_existing hfile
  refine not_allOrNothing_of_write hplan (Option.ne_none_iff_exists'.mpr ⟨content, hcontent⟩)
    (fun _ => false) (fun _ => true) fun n => ?_
  simp [store, horiginal, hfound]

/-- The old file is removed before the new one is opened. -/
lemma not_allOrNothing_of_renamed {original old : String}
    (horiginal : plan.originalId = some original) (hother : original ≠ plan.id)
    (hold : sanitizeProfileFileId original = .ok old)
    (hfile : files (old ++ ".yaml") ≠ none ∨ files (old ++ ".yml") ≠ none) :
    ¬ AllOrNothing parseYaml req files := by
  intro hall
  obtain ⟨found, content, hfound, hcontent⟩ := exists_existing hfile
  let faults : Faults := ⟨"", false, fun _ => true, fun _ => false, false, some .opening⟩
  have hrename : store faults plan files =
      (.error ("保存 profile 失败: " ++ ""), update files found none) := by
    simp [faults, store, horiginal, hother, existing_of_failing, hold, hfound, write]
  have hlost := hall faults _ _ ((bridgeSaveProfile_eq_store hplan rfl).trans hrename) found
    content hcontent
  simp [update_self] at hlost

end Losses

lemma not_allOrNothing_of_endangered (hfile : Endangered parseYaml req files) :
    ¬ AllOrNothing parseYaml req files := by
  obtain ⟨plan, hplan, hfile⟩ := hfile
  cases horiginal : plan.originalId with
  | none =>
    rw [horiginal] at hfile
    refine not_allOrNothing_of_write hplan hfile (fun _ => true) (fun _ => true) fun n => ?_
    simp [store, horiginal, existing_of_failing]
  | some original =>
    rw [horiginal] at hfile
    obtain ⟨old, hold, hfile⟩ := hfile
    by_cases hsame : original = plan.id
    · subst hsame
      obtain rfl := Except.ok.inj ((of_prepare hplan).2.2.symm.trans hold)
      exact not_allOrNothing_of_unchanged hplan horiginal (by tauto)
    · by_cases hnew : files (plan.stem ++ ".yaml") = none
      · exact not_allOrNothing_of_renamed hplan horiginal hsame hold
          (hfile.resolve_left fun hne => hne hnew)
      · refine not_allOrNothing_of_write hplan hnew (fun _ => true) (fun _ => true) fun n => ?_
        simp [store, horiginal, existing_of_failing, hold]

section Keeps

variable {faults : Faults} {path content : String} (hcontent : files path = some content)

include hcontent

lemma store_keeps_new (horiginal : plan.originalId = none)
    (hfree : files (plan.stem ++ ".yaml") = none) :
    (store faults plan files).2 path = some content := by
  simp only [store, horiginal]
  split
  · split
    · exact hcontent
    · exact write_keeps hcontent hfree
  · next hsame => exact absurd hsame (by simp)

lemma store_keeps_rejected {original e : String} (horiginal : plan.originalId = some original)
    (hother : original ≠ plan.id) (hold : sanitizeProfileFileId original = .error e) :
    (store faults plan files).2 path = some content := by
  simp only [store, horiginal, hold]
  split
  · split
    · exact hcontent
    · exact hcontent
  · next hsame => exact absurd hsame (by simpa using hother)

lemma store_keeps_renamed {original old : String}
    (hstem : sanitizeProfileFileId plan.id = .ok plan.stem)
    (horiginal : plan.originalId = some original) (hold : sanitizeProfileFileId original = .ok old)
    (hfree : files (plan.stem ++ ".yaml") = none ∧ files (old ++ ".yaml") = none ∧
      files (old ++ ".yml") = none) : (store faults plan files).2 path = some content := by
  simp only [store, horiginal, hold, existing_of_free hfree.2.1 hfree.2.2]
  split
  · split
    · exact hcontent
    · exact write_keeps hcontent hfree.1
  · next hsame =>
    have hid : original = plan.id := by simpa using hsame
    rw [hid, hstem, Except.ok.injEq] at hold
    rw [hold, existing_of_free hfree.2.1 hfree.2.2]
    exact write_keeps hcontent hfree.2.1

lemma store_keeps_of_safe (hsafe : ¬ Endangered parseYaml req files)
    (hplan : prepare parseYaml (.ok ()) req = .ok plan) :
    (store faults plan files).2 path = some content := by
  have hstem := (of_prepare hplan).2.2
  cases horiginal : plan.originalId with
  | none =>
    refine store_keeps_new hcontent horiginal (by_contra fun hne => ?_)
    exact hsafe ⟨plan, hplan, by rwa [horiginal]⟩
  | some original =>
    cases hold : sanitizeProfileFileId original with
    | error e =>
      refine store_keeps_rejected hcontent horiginal ?_ hold
      rintro rfl
      simp [hstem] at hold
    | ok old =>
      refine store_keeps_renamed hcontent hstem horiginal hold (by_contra fun hne => ?_)
      refine hsafe ⟨plan, hplan, ?_⟩
      rw [horiginal]
      exact ⟨old, hold, by tauto⟩

end Keeps

end ProfileSave

/-- A save is all or nothing exactly if there is nothing to lose. -/
theorem bridgeSaveProfile_allOrNothing_iff (parseYaml : String → Except String Unit)
    (req : SaveBridgeProfileRequest) (files : Files) :
    AllOrNothing parseYaml req files ↔ ¬ Endangered parseYaml req files := by
  refine ⟨fun hall hfile => not_allOrNothing_of_endangered hfile hall, ?_⟩
  intro hsafe faults e files' hsave path content hcontent
  unfold bridgeSaveProfile at hsave
  split at hsave
  · cases hsave
    exact hcontent
  · next plan hplan =>
    rw [(of_prepare hplan).1] at hplan
    have hkept : (store faults plan files).2 path = some content :=
      store_keeps_of_safe hcontent hsafe hplan
    rw [hsave] at hkept
    exact hkept

/-- One profile, renamed. -/
def ProfileSave.sampleFiles : Files :=
  fun path => if path = "old.yaml" then some "x\n" else none

def ProfileSave.renameRequest : SaveBridgeProfileRequest :=
  ⟨some "old", "new", "custom", "", none, some "y"⟩

/-- The old file is gone before the new one is there. -/
theorem bridgeSaveProfile_loses_renamed :
    sampleFiles "old.yaml" = some "x\n" ∧ bridgeSaveProfile (fun _ => .ok ())
          ⟨"disk full", false, fun _ => false, fun _ => false, false, some .opening⟩ renameRequest
          sampleFiles =
        (.error "保存 profile 失败: disk full", update sampleFiles "old.yaml" none) := by
  have hnew : sanitizeProfileFileId "new" = .ok "new" :=
    ProfileId.sanitize_eq_self (List.all_eq_true.mp (by decide)) (by decide) (by decide) (by decide)
      (by decide) (by decide)
  have hold : sanitizeProfileFileId "old" = .ok "old" :=
    ProfileId.sanitize_eq_self (List.all_eq_true.mp (by decide)) (by decide) (by decide) (by decide)
      (by decide) (by decide)
  have hplan : prepare (fun _ => .ok ()) (.ok ()) renameRequest =
      .ok ⟨"new", "y\n", "new", some "old"⟩ := by
    have hid : sanitizeProfileFileId renameRequest.id = .ok "new" := hnew
    have horiginal : renameRequest.originalId.mapM sanitizeProfileFileId = .ok (some "old") := by
      rw [renameRequest, Option.mapM_some, hold]
      rfl
    rw [prepare, hid, horiginal]
    change (sanitizeProfileFileId "new").bind _ = _
    rw [hnew]
    rfl
  rw [bridgeSaveProfile, createDirAll, if_neg Bool.false_ne_true, hplan]
  simp [store, hold, existingProfilePath, sampleFiles, write]

end IlinkHub
