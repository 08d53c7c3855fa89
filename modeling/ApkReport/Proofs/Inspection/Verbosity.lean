/-
Operations that do not heed the log. At another level and behind other records such an
operation comes to the same outcome and leaves the same session, but for the records. An
inspection is put together from nothing else, so it is one.
-/
import ApkReport.Inspection
import ApkReport.Proofs.Archive.Opening

namespace ApkReport

open Archive

/-- The session with another log. -/
def Session.logging (s : Session) (level : Int) (events : List Event) : Session := { s with level, events }

@[simp] theorem Session.logging_files (s : Session) (level : Int) (events : List Event) :
    (s.logging level events).files = s.files := rfl

/-- Whatever is logged, and at whatever level, the operation comes to the same and does the same, but for its records. -/
def IgnoresLog {α : Type} (x : Run α) : Prop :=
  ∀ s level events, ∃ later, x.on (s.logging level events) = ((x.on s).1, (x.on s).2.logging level later)

/-! ## Building operations -/

namespace IgnoresLog

variable {α β : Type}

theorem outcome {x : Run α} (h : IgnoresLog x) (s : Session) (level : Int) (events : List Event) :
    (x.on (s.logging level events)).1 = (x.on s).1 := by
  obtain ⟨_, hon⟩ := h s level events
  rw [hon]

theorem pure (a : α) : IgnoresLog (Pure.pure a : Run α) := fun _ _ events => ⟨events, rfl⟩

theorem throw (f : Failure) : IgnoresLog (MonadExcept.throw f : Run α) := fun _ _ events => ⟨events, rfl⟩

theorem note (component : Component) (level : Int) (text : String) (cause : Option Failure) :
    IgnoresLog (Run.note component level text cause) := by
  intro s threshold events
  rw [Run.on_note, Run.on_note]
  exact ⟨_, rfl⟩

theorem modify {g : Session → Session} (h : ∀ s level events, g (s.logging level events) = (g s).logging level events) :
    IgnoresLog (modify g : Run Unit) := by
  intro s level events
  rw [Run.on_modify, Run.on_modify, h]
  exact ⟨events, rfl⟩

theorem setFiles (files : FileSystem) : IgnoresLog (Run.setFiles files) := .modify fun _ _ _ => rfl

theorem ofExcept (x : Except Failure α) : IgnoresLog (Run.ofExcept x) := by
  cases x with
  | error f => exact .throw f
  | ok a => exact .pure a

theorem lift (x : Except Failure α) : IgnoresLog (liftM x : Run α) := by
  intro s level events
  rw [Run.on_lift, Run.on_lift]
  exact ⟨events, rfl⟩

theorem bind {x : Run α} {k : α → Run β} (hx : IgnoresLog x) (hk : ∀ a, IgnoresLog (k a)) : IgnoresLog (x >>= k) := by
  intro s level events
  obtain ⟨later, hon⟩ := hx s level events
  rw [Run.on_bind, Run.on_bind, hon]
  rcases x.on s with ⟨f | a, t⟩
  · exact ⟨later, rfl⟩
  · exact hk a t level later

/-- What goes on with the session may do so with its files and its numbers, but not with its log. -/
theorem get {k : Session → Run α} (h : ∀ s level events, k (s.logging level events) = k s) (hk : ∀ s, IgnoresLog (k s)) :
    IgnoresLog (MonadState.get >>= k) := by
  intro s level events
  rw [Run.on_bind, Run.on_bind, Run.on_get, Run.on_get]
  dsimp only
  rw [h]
  exact hk s s level events

theorem attempt {x : Run α} (hx : IgnoresLog x) : IgnoresLog (Run.attempt x) := by
  intro s level events
  obtain ⟨later, hon⟩ := hx s level events
  rw [Run.on_attempt, Run.on_attempt, hon]
  exact ⟨later, rfl⟩

end IgnoresLog

/-! ## Packages -/

theorem ignoresLog_openArchive (path : String) : IgnoresLog (openArchive path) := by
  intro s level events
  rw [on_openArchive, on_openArchive, Session.logging_files]
  cases archiveAt s.files path with
  | error f => exact ⟨events, rfl⟩
  | ok r => exact ⟨_, rfl⟩

theorem ignoresLog_ofManifest {α : Type} (x : Except ManifestFault α) : IgnoresLog (Run.ofManifest x) := by
  cases x with
  | error f => exact .throw _
  | ok a => exact .pure a

theorem ignoresLog_readManifest (decoder : Decoder) (path : String) : IgnoresLog (readManifest decoder path) := by
  have hopen : IgnoresLog (openPackage decoder path) :=
    .bind (ignoresLog_openArchive path) fun _ => .bind (ignoresLog_ofManifest _) fun _ => .bind (.note _ _ _ _) fun _ => .pure _
  exact .bind hopen fun _ => ignoresLog_ofManifest _

theorem ignoresLog_collectLabels (reads : List (Member × Except Failure Bytes)) : IgnoresLog (Dex.collectLabels reads) := by
  induction reads with
  | nil => exact .pure _
  | cons read rest ih =>
    obtain ⟨m, e | content⟩ := read
    · rw [Dex.collectLabels]
      split
      · exact .bind (.throw e) fun _ => .bind (.note _ _ _ _) fun _ => ih
      · exact .bind (.note _ _ _ _) fun _ => ih
    · exact .bind ih fun _ => .pure _

theorem ignoresLog_scan (path : String) (completion : ∀ count, Dex.Completion count) : IgnoresLog (Dex.scan path completion) :=
  .bind (ignoresLog_openArchive path) fun _ => .bind (.lift _) fun _ => .bind (ignoresLog_collectLabels _) fun _ =>
    .bind (.note _ _ _ _) fun _ => .pure _

theorem ignoresLog_inspectionBlock (decoder : Decoder) (path package : String) :
    IgnoresLog (inspectionBlock decoder path package) :=
  .bind (.note _ _ _ _) fun _ => .bind (ignoresLog_readManifest decoder package) fun _ =>
    .bind (ignoresLog_scan package _) fun _ => .pure _

/-! ## Bundles -/

theorem ignoresLog_makeNumberedDirectory (name : String) (tries : Nat) : IgnoresLog (makeNumberedDirectory name tries) := by
  induction tries with
  | zero => exact .throw _
  | succ tries ih =>
    refine .get (fun _ _ _ => rfl) fun s => .bind (.modify fun _ _ _ => rfl) fun _ => ?_
    refine .get (fun _ _ _ => rfl) fun t => .get (fun _ _ _ => rfl) fun u => ?_
    cases u.files.makeDirectory (numberedPath t.tempRoot name (s.serial + 1)) with
    | ok files => exact .bind (.setFiles files) fun _ => .pure _
    | error e =>
      dsimp only
      split
      · exact ih
      · exact .throw _

theorem ignoresLog_makeTempDirectory (pre : Value) : IgnoresLog (makeTempDirectory pre) := by
  refine .bind (.lift _) fun name => .get (fun _ _ _ => rfl) fun s => ?_
  split
  · exact .bind (.throw _) fun _ => ignoresLog_makeNumberedDirectory name numberCount
  · exact ignoresLog_makeNumberedDirectory name numberCount

theorem ignoresLog_removeTempDirectory (path : String) : IgnoresLog (removeTempDirectory path) := by
  refine .get (fun _ _ _ => rfl) fun s => ?_
  rcases s.files.removeTree path with ⟨_ | e, files⟩
  · exact .bind (.setFiles files) fun _ => .pure _
  · refine .bind (.setFiles files) fun _ => ?_
    dsimp only
    split
    · exact .note _ _ _ _
    · exact .pure _

theorem ignoresLog_copyBase (stream : Stream) (name bundle directory : String) :
    IgnoresLog (copyBase stream name bundle directory) := by
  unfold copyBase
  refine .get (fun s level events => by rw [Session.logging_files]) fun s => ?_
  rcases copyInto s.files (basePath directory) stream with ⟨_ | f, files⟩
  · exact .bind (.setFiles files) fun _ => .pure _
  · exact .bind (.setFiles files) fun _ => .throw _

theorem ignoresLog_extractBase (bundle directory : String) : IgnoresLog (extractBase bundle directory) := by
  refine .bind (ignoresLog_openArchive bundle) fun r => ?_
  dsimp only
  cases r.listing.entries.find? (isBaseEntry ·.name) with
  | none => exact .throw _
  | some m => exact .bind (.note _ _ _ _) fun _ => .bind (.lift _) fun stream => ignoresLog_copyBase stream _ _ _

/-- An inspection does not heed the log. -/
theorem ignoresLog_inspectFile (decoder : Decoder) (settings : Settings) (path : String) :
    IgnoresLog (inspectFile decoder settings path) := by
  have hcopy : ∀ directory, IgnoresLog (withCopy path directory (inspectionBlock decoder path)) := fun directory =>
    .bind (.note _ _ _ _) fun _ => .bind (ignoresLog_extractBase path directory) (ignoresLog_inspectionBlock decoder path)
  unfold inspectFile withPackage
  split
  · refine .bind (ignoresLog_makeTempDirectory settings.tempPrefix) fun directory => .bind (.note _ _ _ _) fun _ => ?_
    exact .bind (.attempt (hcopy directory)) fun _ => .bind (ignoresLog_removeTempDirectory directory) fun _ => .ofExcept _
  · exact ignoresLog_inspectionBlock decoder path (pathText path)

end ApkReport
