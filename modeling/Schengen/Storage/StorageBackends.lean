import Mathlib.Data.Fintype.Basic
import Mathlib.Data.List.Infix
import Mathlib.Logic.Function.Basic
import Schengen.Library.Runs
import Schengen.Storage.Pipeline

/-!
# The storage backends

`Storage/storage.cpp`: threads resolve targets, and S3 is initialized by the first of them that needs it
and finalized once. The locked sections are one step each. `ResolveTarget` makes its file system after
`EnsureS3Initialized` has left its section, so a finalization can come in between.
-/

namespace Schengen.Storage
open Library

def isS3Uri (uri : String) : Bool :=
  "s3://".toList.isPrefixOf uri.toList || uri = "s3:" || "s3:".toList.isPrefixOf uri.toList

def isObsUri (uri : String) : Bool := "obs://".toList.isPrefixOf uri.toList

def hasUriScheme (uri : String) : Bool :=
  decide ("://".toList <:+: uri.toList) || "s3:".toList.isPrefixOf uri.toList

/-- The calls of Arrow's global functions, with what they returned. -/
inductive BackendCall
  | initializeS3 (status : Status)
  | fileSystemFromUri (uri : String)
  | finalizeS3 (status : Status)
  deriving DecidableEq

def BackendCall.ofS3 : BackendCall → Bool
  | .fileSystemFromUri uri => isS3Uri uri
  | .initializeS3 _ => true
  | .finalizeS3 _ => true

/-- `opening` holds the URI of a thread between the two halves of `ResolveTarget`. `calls` and `ensured`
record history: the calls of Arrow, and what `EnsureS3Initialized` answered for the URIs of S3. -/
structure StorageBackends (ι : Type) where
  s3Initialized : Bool
  s3Finalized : Bool
  s3InitStatus : Status
  opening : ι → Option String
  calls : List BackendCall
  ensured : List Status

/-- `resolve` carries what `InitializeS3` would return, and `finalize` what `FinalizeS3` would. -/
inductive BackendAction (ι : Type)
  | resolve (thread : ι) (uri : String) (initStatus : Status)
  | fileSystemFromUri (thread : ι)
  | finalize (status : Status)

namespace StorageBackends

variable {ι : Type}

def initial : StorageBackends ι where
  s3Initialized := false
  s3Finalized := false
  s3InitStatus := .ok
  opening _ := none
  calls := []
  ensured := []

def withoutS3 : Status := .error "NotImplemented" "Arrow was built without S3 filesystem support"

def alreadyFinalized : Status := .error "Invalid" "S3 filesystem was already finalized"

/-- The section of `EnsureS3Initialized`; `arrowS3` says that Arrow was built with S3. -/
def ensureS3 (arrowS3 : Bool) (initStatus : Status) (s : StorageBackends ι) :
    Status × StorageBackends ι :=
  if arrowS3 = false then (withoutS3, s)
  else if s.s3Finalized then (alreadyFinalized, s)
  else if s.s3Initialized = false ∧ s.s3InitStatus = .ok then
    (initStatus, { s with
      s3InitStatus := initStatus
      s3Initialized := decide (initStatus = .ok)
      calls := s.calls ++ [.initializeS3 initStatus] })
  else (s.s3InitStatus, s)

def ensureS3Initialized (arrowS3 : Bool) (uri : String) (initStatus : Status)
    (s : StorageBackends ι) : Status × StorageBackends ι :=
  if isS3Uri uri = false then (.ok, s)
  else
    let answer := s.ensureS3 arrowS3 initStatus
    (answer.1, { answer.2 with ensured := answer.2.ensured ++ [answer.1] })

section Steps
variable [DecidableEq ι]

/-- `ResolveTarget` up to the call that makes its file system. -/
def resolveTarget (arrowS3 : Bool) (thread : ι) (uri : String) (initStatus : Status)
    (s : StorageBackends ι) : StorageBackends ι :=
  -- a target of OBS is refused, and one without a scheme is local
  if isObsUri uri ∨ hasUriScheme uri = false then s
  else
    match s.ensureS3Initialized arrowS3 uri initStatus with
    | (.ok, t) => { t with opening := Function.update t.opening thread (some uri) }
    | (.error _ _, t) => t

def finalizeStorageBackends (arrowS3 : Bool) (status : Status) (s : StorageBackends ι) :
    StorageBackends ι :=
  if arrowS3 = false ∨ s.s3Initialized = false ∨ s.s3Finalized = true then s
  else { s with s3Finalized := true, calls := s.calls ++ [.finalizeS3 status] }

def step (arrowS3 : Bool) (s : StorageBackends ι) : BackendAction ι → Option (StorageBackends ι)
  | .resolve thread uri initStatus =>
    match s.opening thread with
    | none => some (s.resolveTarget arrowS3 thread uri initStatus)
    | some _ => none
  | .fileSystemFromUri thread =>
    match s.opening thread with
    | none => none
    | some uri => some { s with
        opening := Function.update s.opening thread none
        calls := s.calls ++ [.fileSystemFromUri uri] }
  | .finalize status => some (s.finalizeStorageBackends arrowS3 status)

end Steps

/-! ## The session with S3 -/

def s3Calls (s : StorageBackends ι) : List BackendCall := s.calls.filter BackendCall.ofS3

/-- No thread is about to make a file system of S3. -/
def NoneOpening (s : StorageBackends ι) : Prop :=
  ∀ thread uri, s.opening thread = some uri → isS3Uri uri = false

/-- The storage backends are finalized when the threads that resolve targets are through. -/
def FinalizesAlone (s : StorageBackends ι) : BackendAction ι → Prop
  | .finalize _ => s.NoneOpening
  | _ => True

/-- What Arrow and the threads see of S3: nothing, one initialization that failed, or one that
succeeded with file systems after it, and one finalization at the end. -/
inductive S3Session (arrowS3 : Bool) : List BackendCall → List Status → Prop
  | missing {ensured : List Status} (h : arrowS3 = false)
    (hall : ∀ status ∈ ensured, status = withoutS3) : S3Session arrowS3 [] ensured
  | unused : S3Session arrowS3 [] []
  | failed {status : Status} {ensured : List Status} (h : status ≠ .ok)
    (hall : ∀ answer ∈ ensured, answer = status) :
    S3Session arrowS3 [.initializeS3 status] ensured
  | opened {calls : List BackendCall} {ensured : List Status}
    (hcalls : ∀ call ∈ calls, ∃ uri, call = .fileSystemFromUri uri)
    (hall : ∀ answer ∈ ensured, answer = .ok) :
    S3Session arrowS3 (.initializeS3 .ok :: calls) ensured
  | finalized {calls : List BackendCall} {ensured refused : List Status} (status : Status)
    (hcalls : ∀ call ∈ calls, ∃ uri, call = .fileSystemFromUri uri)
    (hall : ∀ answer ∈ ensured, answer = .ok)
    (hrefused : ∀ answer ∈ refused, answer = alreadyFinalized) :
    S3Session arrowS3 (.initializeS3 .ok :: calls ++ [.finalizeS3 status]) (ensured ++ refused)

/-- How far the session is. -/
inductive BackendInv (arrowS3 : Bool) (s : StorageBackends ι) : Prop
  | missing (harrow : arrowS3 = false) (hinit : s.s3Initialized = false) (hcalls : s.s3Calls = [])
    (hall : ∀ status ∈ s.ensured, status = withoutS3) (hidle : s.NoneOpening)
  | unused (harrow : arrowS3 = true) (hinit : s.s3Initialized = false)
    (hstatus : s.s3InitStatus = .ok) (hfinal : s.s3Finalized = false) (hcalls : s.s3Calls = [])
    (hensured : s.ensured = []) (hidle : s.NoneOpening)
  | failed {status : Status} (herror : status ≠ .ok) (harrow : arrowS3 = true)
    (hinit : s.s3Initialized = false) (hstatus : s.s3InitStatus = status)
    (hfinal : s.s3Finalized = false) (hcalls : s.s3Calls = [.initializeS3 status])
    (hall : ∀ answer ∈ s.ensured, answer = status) (hidle : s.NoneOpening)
  | opened {calls : List BackendCall} (harrow : arrowS3 = true) (hinit : s.s3Initialized = true)
    (hstatus : s.s3InitStatus = .ok) (hfinal : s.s3Finalized = false)
    (hcalls : s.s3Calls = .initializeS3 .ok :: calls)
    (huris : ∀ call ∈ calls, ∃ uri, call = .fileSystemFromUri uri)
    (hall : ∀ answer ∈ s.ensured, answer = .ok)
  | finalized {calls : List BackendCall} {ensured refused : List Status} {status : Status}
    (harrow : arrowS3 = true) (hinit : s.s3Initialized = true) (hfinal : s.s3Finalized = true)
    (hcalls : s.s3Calls = .initializeS3 .ok :: calls ++ [.finalizeS3 status])
    (huris : ∀ call ∈ calls, ∃ uri, call = .fileSystemFromUri uri)
    (hensured : s.ensured = ensured ++ refused) (hall : ∀ answer ∈ ensured, answer = .ok)
    (hrefused : ∀ answer ∈ refused, answer = alreadyFinalized) (hidle : s.NoneOpening)

variable {arrowS3 : Bool} {s t : StorageBackends ι} {thread : ι} {uri : String} {initStatus : Status}

lemma forall_mem_concat {α : Type} {xs : List α} {P : α → Prop} {x : α} (hxs : ∀ y ∈ xs, P y)
    (hx : P x) : ∀ y ∈ xs ++ [x], P y :=
  List.forall_mem_append.mpr ⟨hxs, List.forall_mem_singleton.mpr hx⟩

lemma BackendInv.initial (arrowS3 : Bool) : BackendInv arrowS3 (initial : StorageBackends ι) := by
  have hidle : (StorageBackends.initial : StorageBackends ι).NoneOpening := by
    intro thread uri h
    cases h
  cases arrowS3 with
  | false => exact .missing rfl rfl rfl (fun status h => absurd h List.not_mem_nil) hidle
  | true => exact .unused rfl rfl rfl rfl rfl rfl hidle

lemma BackendInv.session (h : BackendInv arrowS3 s) : S3Session arrowS3 s.s3Calls s.ensured := by
  cases h with
  | missing harrow _ hcalls hall _ =>
    rw [hcalls]
    exact .missing harrow hall
  | unused _ _ _ _ hcalls hensured _ =>
    rw [hcalls, hensured]
    exact .unused
  | failed herror _ _ _ _ hcalls hall _ =>
    rw [hcalls]
    exact .failed herror hall
  | opened _ _ _ _ hcalls huris hall =>
    rw [hcalls]
    exact .opened huris hall
  | @finalized _ _ _ status _ _ _ hcalls huris hensured hall hrefused _ =>
    rw [hcalls, hensured]
    exact .finalized status huris hall hrefused

/-- A step that only other file systems see. -/
lemma BackendInv.frame (h : BackendInv arrowS3 s) (hinit : t.s3Initialized = s.s3Initialized)
    (hfinal : t.s3Finalized = s.s3Finalized) (hstatus : t.s3InitStatus = s.s3InitStatus)
    (hcalls : t.s3Calls = s.s3Calls) (hensured : t.ensured = s.ensured)
    (hopening : ∀ thread uri, t.opening thread = some uri →
      isS3Uri uri = false ∨ s.opening thread = some uri) : BackendInv arrowS3 t := by
  have hnone (hidle : s.NoneOpening) : t.NoneOpening := by
    intro thread uri hthread
    rcases hopening thread uri hthread with hother | hbefore
    · exact hother
    · exact hidle thread uri hbefore
  cases h with
  | missing harrow hi hc hall hidle =>
    exact .missing harrow (hinit.trans hi) (hcalls.trans hc) (hensured ▸ hall) (hnone hidle)
  | unused harrow hi hs hf hc he hidle =>
    exact .unused harrow (hinit.trans hi) (hstatus.trans hs) (hfinal.trans hf) (hcalls.trans hc)
      (hensured.trans he) (hnone hidle)
  | failed herror harrow hi hs hf hc hall hidle =>
    exact .failed herror harrow (hinit.trans hi) (hstatus.trans hs) (hfinal.trans hf)
      (hcalls.trans hc) (hensured ▸ hall) (hnone hidle)
  | opened harrow hi hs hf hc huris hall =>
    exact .opened harrow (hinit.trans hi) (hstatus.trans hs) (hfinal.trans hf) (hcalls.trans hc)
      huris (hensured ▸ hall)
  | finalized harrow hi hf hc huris he hall hrefused hidle =>
    exact .finalized harrow (hinit.trans hi) (hfinal.trans hf) (hcalls.trans hc) huris
      (hensured.trans he) hall hrefused (hnone hidle)

lemma BackendInv.finalize (h : BackendInv arrowS3 s) (hidle : s.NoneOpening) (status : Status) :
    BackendInv arrowS3 (s.finalizeStorageBackends arrowS3 status) := by
  unfold finalizeStorageBackends
  by_cases hskip : arrowS3 = false ∨ s.s3Initialized = false ∨ s.s3Finalized = true
  · rw [if_pos hskip]
    exact h
  · rw [if_neg hskip]
    rw [not_or, not_or] at hskip
    obtain ⟨harrow, hinit, hfinal⟩ := hskip
    cases h with
    | missing harrow' _ _ _ _ => exact absurd harrow' harrow
    | unused _ hinit' _ _ _ _ _ => exact absurd hinit' hinit
    | failed _ _ hinit' _ _ _ _ _ => exact absurd hinit' hinit
    | finalized _ _ hfinal' _ _ _ _ _ _ => exact absurd hfinal' hfinal
    | @opened calls harrow hinit _ _ hcalls huris hall =>
      have hcalls' : (s.calls ++ [BackendCall.finalizeS3 status]).filter BackendCall.ofS3 =
          .initializeS3 .ok :: calls ++ [.finalizeS3 status] := by
        rw [List.filter_append]
        exact congrArg (· ++ [BackendCall.finalizeS3 status]) hcalls
      exact .finalized harrow hinit rfl hcalls' huris (List.append_nil _).symm hall
        (fun answer h => absurd h List.not_mem_nil) hidle

/-- The section of `EnsureS3Initialized` for a URI of S3, and what follows it in the same thread. -/
lemma BackendInv.ensureS3 (h : BackendInv arrowS3 s) (initStatus : Status) :
    let answer := s.ensureS3 arrowS3 initStatus
    let t := { answer.2 with ensured := answer.2.ensured ++ [answer.1] }
    BackendInv arrowS3 t ∧ (answer.1 = .ok → t.s3Initialized = true ∧ t.s3Finalized = false) := by
  cases h with
  | missing harrow hinit hcalls hall hidle =>
    have hanswer : s.ensureS3 arrowS3 initStatus = (withoutS3, s) := if_pos harrow
    rw [hanswer]
    refine ⟨.missing harrow hinit hcalls (forall_mem_concat hall rfl) hidle, ?_⟩
    intro hok
    cases hok
  | unused harrow hinit hstatus hfinal hcalls hensured hidle =>
    subst harrow
    have hanswer : s.ensureS3 true initStatus = (initStatus, { s with
        s3InitStatus := initStatus
        s3Initialized := decide (initStatus = .ok)
        calls := s.calls ++ [.initializeS3 initStatus] }) := by
      unfold StorageBackends.ensureS3
      rw [if_neg Bool.noConfusion, hfinal, if_neg Bool.false_ne_true, if_pos ⟨hinit, hstatus⟩]
    have hcalls' : (s.calls ++ [BackendCall.initializeS3 initStatus]).filter BackendCall.ofS3 =
        [.initializeS3 initStatus] := by
      rw [List.filter_append]
      exact congrArg (· ++ [BackendCall.initializeS3 initStatus]) hcalls
    have hall : ∀ answer ∈ s.ensured ++ [initStatus], answer = initStatus := by
      rw [hensured]
      exact fun answer h => List.mem_singleton.mp h
    rw [hanswer]
    by_cases hok : initStatus = .ok
    · subst hok
      refine ⟨.opened rfl rfl rfl hfinal hcalls' (fun call h => absurd h List.not_mem_nil)
        hall, fun _ => ⟨rfl, hfinal⟩⟩
    · exact ⟨.failed hok rfl (decide_eq_false hok) rfl hfinal hcalls' hall hidle,
        fun h => absurd h hok⟩
  | @failed status herror harrow hinit hstatus hfinal hcalls hall hidle =>
    have hanswer : s.ensureS3 arrowS3 initStatus = (status, s) := by
      unfold StorageBackends.ensureS3
      rw [harrow, if_neg Bool.noConfusion, hfinal, if_neg Bool.false_ne_true,
        if_neg (fun h => herror (hstatus.symm.trans h.2)), hstatus]
    rw [hanswer]
    exact ⟨.failed herror harrow hinit hstatus hfinal hcalls (forall_mem_concat hall rfl) hidle,
      fun h => absurd h herror⟩
  | opened harrow hinit hstatus hfinal hcalls huris hall =>
    have hanswer : s.ensureS3 arrowS3 initStatus = (.ok, s) := by
      unfold StorageBackends.ensureS3
      rw [harrow, if_neg Bool.noConfusion, hfinal, if_neg Bool.false_ne_true,
        if_neg (by rw [hinit]; exact fun h => Bool.noConfusion h.1), hstatus]
    rw [hanswer]
    exact ⟨.opened harrow hinit hstatus hfinal hcalls huris (forall_mem_concat hall rfl),
      fun _ => ⟨hinit, hfinal⟩⟩
  | @finalized calls ensured refused status harrow hinit hfinal hcalls huris hensured hall hrefused hidle =>
    have hanswer : s.ensureS3 arrowS3 initStatus = (alreadyFinalized, s) := by
      unfold StorageBackends.ensureS3
      rw [harrow, if_neg Bool.noConfusion, hfinal, if_pos rfl]
    rw [hanswer]
    have hensured' : s.ensured ++ [alreadyFinalized] = ensured ++ (refused ++ [alreadyFinalized]) := by
      rw [hensured, List.append_assoc]
    refine ⟨.finalized harrow hinit hfinal hcalls huris hensured' hall
      (forall_mem_concat hrefused rfl) hidle, ?_⟩
    intro hok
    cases hok

/-- A thread that was answered with OK goes on to make a file system of S3. -/
lemma BackendInv.opens (h : BackendInv arrowS3 s) (hinit : s.s3Initialized = true)
    (hfinal : s.s3Finalized = false) (opening : ι → Option String) :
    BackendInv arrowS3 { s with opening := opening } := by
  cases h with
  | opened harrow hi hs hf hcalls huris hall => exact .opened harrow hi hs hf hcalls huris hall
  | missing _ hi _ _ _ => exact absurd (hinit.symm.trans hi) Bool.noConfusion
  | unused _ hi _ _ _ _ _ => exact absurd (hinit.symm.trans hi) Bool.noConfusion
  | failed _ _ hi _ _ _ _ _ => exact absurd (hinit.symm.trans hi) Bool.noConfusion
  | finalized _ _ hf _ _ _ _ _ _ => exact absurd (hf.symm.trans hfinal) Bool.noConfusion

section Runs
variable [DecidableEq ι]

lemma BackendInv.resolve (h : BackendInv arrowS3 s) (thread : ι) (uri : String)
    (initStatus : Status) : BackendInv arrowS3 (s.resolveTarget arrowS3 thread uri initStatus) := by
  unfold resolveTarget
  by_cases hother : isObsUri uri ∨ hasUriScheme uri = false
  · rw [if_pos hother]
    exact h
  rw [if_neg hother]
  unfold ensureS3Initialized
  by_cases hs3 : isS3Uri uri = false
  · rw [if_pos hs3]
    refine h.frame rfl rfl rfl rfl rfl ?_
    intro other uri' hopening
    change Function.update s.opening thread (some uri) other = some uri' at hopening
    by_cases hthread : other = thread
    · subst hthread
      rw [Function.update_self] at hopening
      exact .inl (Option.some.inj hopening ▸ hs3)
    · rw [Function.update_of_ne hthread] at hopening
      exact .inr hopening
  · rw [if_neg hs3]
    obtain ⟨hinv, hok⟩ := h.ensureS3 initStatus
    cases hanswer : s.ensureS3 arrowS3 initStatus with
    | mk answer t =>
      rw [hanswer] at hinv hok
      cases answer with
      | ok => exact hinv.opens (hok rfl).1 (hok rfl).2 _
      | error code message => exact hinv

lemma BackendInv.fileSystem (h : BackendInv arrowS3 s) (hopening : s.opening thread = some uri) :
    BackendInv arrowS3 { s with
      opening := Function.update s.opening thread none
      calls := s.calls ++ [.fileSystemFromUri uri] } := by
  have hclosed (other : ι) (uri' : String)
      (hother : Function.update s.opening thread none other = some uri') :
      s.opening other = some uri' := by
    by_cases hthread : other = thread
    · subst hthread
      rw [Function.update_self] at hother
      cases hother
    · rwa [Function.update_of_ne hthread] at hother
  have hfilter : (s.calls ++ [BackendCall.fileSystemFromUri uri]).filter BackendCall.ofS3 =
      s.s3Calls ++ [BackendCall.fileSystemFromUri uri].filter BackendCall.ofS3 :=
    List.filter_append _ _
  by_cases hs3 : isS3Uri uri = true
  · have hbusy : ¬ s.NoneOpening := by
      intro hidle
      exact Bool.noConfusion (hs3.symm.trans (hidle thread uri hopening))
    have hkept : [BackendCall.fileSystemFromUri uri].filter BackendCall.ofS3 =
        [.fileSystemFromUri uri] := List.filter_cons_of_pos hs3
    rw [hkept] at hfilter
    cases h with
    | opened harrow hinit hstatus hfinal hcalls huris hall =>
      rw [hcalls] at hfilter
      exact .opened harrow hinit hstatus hfinal hfilter (forall_mem_concat huris ⟨uri, rfl⟩) hall
    | missing _ _ _ _ hidle => exact absurd hidle hbusy
    | unused _ _ _ _ _ _ hidle => exact absurd hidle hbusy
    | failed _ _ _ _ _ _ _ hidle => exact absurd hidle hbusy
    | finalized _ _ _ _ _ _ _ _ hidle => exact absurd hidle hbusy
  · have hdropped : [BackendCall.fileSystemFromUri uri].filter BackendCall.ofS3 = [] :=
      List.filter_cons_of_neg hs3
    rw [hdropped, List.append_nil] at hfilter
    exact h.frame rfl rfl rfl hfilter rfl fun other uri' hother => .inr (hclosed other uri' hother)

lemma BackendInv.step {a : BackendAction ι} (h : BackendInv arrowS3 s) (hguard : s.FinalizesAlone a)
    (hs : s.step arrowS3 a = some t) : BackendInv arrowS3 t := by
  cases a with
  | resolve thread uri initStatus =>
    cases hopening : s.opening thread <;> simp only [StorageBackends.step, hopening] at hs <;> cases hs
    exact h.resolve thread uri initStatus
  | fileSystemFromUri thread =>
    cases hopening : s.opening thread <;> simp only [StorageBackends.step, hopening] at hs <;> cases hs
    exact h.fileSystem hopening
  | finalize status =>
    cases hs
    exact h.finalize hguard status

/-- Whatever threads resolve which targets and whatever Arrow answers: S3 is initialized once at most,
nobody makes a file system of S3 before that succeeded, it is finalized once at most and only then, and
after that every target of S3 is refused. An initialization that failed is answered to everyone. -/
theorem s3_session (arrowS3 : Bool) (as : List (BackendAction ι)) (s : StorageBackends ι)
    (hguard : Along (step arrowS3) FinalizesAlone initial as)
    (hrun : exec (step arrowS3) initial as = some s) : S3Session arrowS3 s.s3Calls s.ensured :=
  (exec_invariant (fun _ _ _ h hguard hs => BackendInv.step h hguard hs) (.initial arrowS3) hguard
    hrun).session

end Runs

instance [Fintype ι] (s : StorageBackends ι) : Decidable s.NoneOpening :=
  decidable_of_iff (∀ thread, ((s.opening thread).all fun uri => !isS3Uri uri) = true) (by
    constructor
    · intro h thread uri hopening
      have hall := h thread
      rw [hopening] at hall
      simpa using hall
    · intro h thread
      cases hopening : s.opening thread with
      | none => rfl
      | some uri => simpa using h thread uri hopening)

instance [Fintype ι] (s : StorageBackends ι) (a : BackendAction ι) : Decidable (s.FinalizesAlone a) :=
  match a with
  | .finalize _ => inferInstanceAs (Decidable s.NoneOpening)
  | .resolve _ _ _ | .fileSystemFromUri _ => isTrue trivial

/-- Two threads resolve targets of S3, and a third target comes after the finalization. -/
def twoTargets : List (BackendAction Bool) :=
  [.resolve true "s3://a" .ok, .resolve false "s3://b" .ok, .fileSystemFromUri false,
    .fileSystemFromUri true, .finalize .ok, .resolve true "s3://c" .ok]

theorem s3_session_twoTargets :
    ∃ s, exec (step true) initial twoTargets = some s ∧
      s.s3Calls = [.initializeS3 .ok, .fileSystemFromUri "s3://b", .fileSystemFromUri "s3://a",
        .finalizeS3 .ok] ∧
      s.ensured = [.ok, .ok, alreadyFinalized] ∧ S3Session true s.s3Calls s.ensured :=
  ⟨_, rfl, by decide, by decide, s3_session true twoTargets _ (by decide) rfl⟩

/-- A finalization between the two halves of `ResolveTarget` comes before the file system is made. -/
example : ((exec (step true) (initial : StorageBackends Bool)
    [.resolve true "s3://a" .ok, .finalize .ok, .fileSystemFromUri true]).map s3Calls) =
    some [.initializeS3 .ok, .finalizeS3 .ok, .fileSystemFromUri "s3://a"] := by
  decide

end StorageBackends

end Schengen.Storage
