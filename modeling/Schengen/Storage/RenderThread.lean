import Schengen.Storage.DisplayRuns

/-!
# The render thread

The thread waits only while no frame is due, so that none is lost, and `Stop` always gets past the
join.
-/

namespace Schengen.Storage
open Library

namespace ProgressController
open TableProgressState

variable {c d e : ProgressController}

/-- What the render thread sees of a call: it may be woken, and it is not left waiting when a frame
becomes due. -/
structure Notifies (c d : ProgressController) : Prop where
  interactive : d.interactiveTty = c.interactiveTty
  stopRequested : d.stopRequested = c.stopRequested
  tables : d.tables.length = c.tables.length
  thread : d.renderThread = c.renderThread ∨ (c.renderThread = .waiting ∧ d.renderThread = .woken)
  woken : d.renderDirty = true → c.renderDirty = true ∨ d.renderThread ≠ .waiting
  due : d.renderDirty = true → c.renderDirty = true ∨ (c.interactiveTty = true ∧ c.tables ≠ [])

lemma Notifies.refl (c : ProgressController) : Notifies c c :=
  ⟨rfl, rfl, rfl, .inl rfl, .inl, .inl⟩

/-- Where no frame is due, there is nothing to be woken for. -/
lemma notifies_of_clean (hinteractive : d.interactiveTty = c.interactiveTty)
    (hstop : d.stopRequested = c.stopRequested) (htables : d.tables.length = c.tables.length)
    (hthread : d.renderThread = c.renderThread) (hclean : d.renderDirty = false) : Notifies c d := by
  have hnever : d.renderDirty ≠ true := by
    rw [hclean]
    exact Bool.false_ne_true
  exact ⟨hinteractive, hstop, htables, .inl hthread, fun h => absurd h hnever,
    fun h => absurd h hnever⟩

lemma renderFrameLocked_keeps (c : ProgressController) :
    c.renderFrameLocked.interactiveTty = c.interactiveTty ∧
      c.renderFrameLocked.stopRequested = c.stopRequested ∧
      c.renderFrameLocked.tables = c.tables ∧
      c.renderFrameLocked.renderThread = c.renderThread := by
  unfold renderFrameLocked
  dsimp only
  split_ifs <;> exact ⟨rfl, rfl, rfl, rfl⟩

lemma notifies_renderFrameLocked (c : ProgressController) : Notifies c c.renderFrameLocked := by
  obtain ⟨hinteractive, hstop, htables, hthread⟩ := renderFrameLocked_keeps c
  exact notifies_of_clean hinteractive hstop (by rw [htables]) hthread (renderDirty_renderFrameLocked c)

lemma notifies_writeFailureMessage (message : String) (c : ProgressController) :
    Notifies c (c.writeFailureMessage message) := by
  unfold writeFailureMessage clearFrameLocked
  dsimp only
  split_ifs
  · exact ⟨rfl, rfl, rfl, .inl rfl, .inl, .inl⟩
  all_goals
    obtain ⟨hinteractive, hstop, htables, hthread⟩ := renderFrameLocked_keeps _
    exact notifies_of_clean hinteractive hstop (by rw [htables]; rfl) hthread
      (renderDirty_renderFrameLocked _)

lemma notifies_requestRender (immediate : Bool) (htables : c.tables ≠ []) :
    Notifies c (c.requestRender immediate) := by
  unfold requestRender
  split_ifs with htty himmediate
  · exact .refl c
  · exact notifies_renderFrameLocked c
  · have hinteractive : c.interactiveTty = true := by simpa using htty
    have hthread : (notifyAll { c with renderDirty := true }).renderThread =
        if c.renderThread = .waiting then .woken else c.renderThread := rfl
    by_cases hwaiting : c.renderThread = .waiting
    · rw [if_pos hwaiting] at hthread
      exact ⟨rfl, rfl, rfl, .inr ⟨hwaiting, hthread⟩, fun _ => .inr (by rw [hthread]; decide),
        fun _ => .inr ⟨hinteractive, htables⟩⟩
    · rw [if_neg hwaiting] at hthread
      exact ⟨rfl, rfl, rfl, .inl hthread, fun _ => .inr (by rwa [hthread]),
        fun _ => .inr ⟨hinteractive, htables⟩⟩

/-- What is changed besides does not matter to the thread. -/
lemma Notifies.of_same {c' d' : ProgressController} (h : Notifies c' d')
    (hc : c'.interactiveTty = c.interactiveTty ∧ c'.stopRequested = c.stopRequested ∧
      c'.tables.length = c.tables.length ∧ c'.renderThread = c.renderThread ∧
      c'.renderDirty = c.renderDirty)
    (hd : d.interactiveTty = d'.interactiveTty ∧ d.stopRequested = d'.stopRequested ∧
      d.tables.length = d'.tables.length ∧ d.renderThread = d'.renderThread ∧
      d.renderDirty = d'.renderDirty) : Notifies c d := by
  obtain ⟨hinteractive, hstop, htables, hthread, hdirty⟩ := hc
  obtain ⟨hinteractive', hstop', htables', hthread', hdirty'⟩ := hd
  have hne : c'.tables ≠ [] → c.tables ≠ [] := by
    rw [← List.length_pos_iff, ← List.length_pos_iff, htables]
    exact id
  constructor
  · rw [hinteractive', h.interactive, hinteractive]
  · rw [hstop', h.stopRequested, hstop]
  · rw [htables', h.tables, htables]
  · rw [hthread', ← hthread]
    exact h.thread
  · rw [hdirty', hthread', ← hdirty]
    exact h.woken
  · rw [hdirty', ← hdirty, ← hinteractive]
    exact fun hdue => (h.due hdue).imp id (And.imp id hne)

lemma notifies_call (now : Int) (table : Nat) (k : ProgressCall) (c : ProgressController) :
    Notifies c (c.call now table k) := by
  have hput : ∀ entry, (c.putCall now table k entry).tables.length = c.tables.length :=
    fun entry => List.length_set
  rcases call_cases now table k c with ⟨-, hcall, -⟩ | ⟨entry, immediate, -, hentry, hcall⟩ |
    ⟨message, -, ⟨-, hcall⟩ | ⟨entry, hentry, hcall⟩⟩
  · rw [hcall]
    exact .refl c
  · have hne : (c.putCall now table k entry).tables ≠ [] := by
      rw [← List.length_pos_iff, hput]
      exact List.length_pos_of_mem (List.mem_of_getElem? hentry)
    rw [hcall]
    exact (notifies_requestRender immediate hne).of_same ⟨rfl, rfl, hput entry, rfl, rfl⟩
      ⟨rfl, rfl, rfl, rfl, rfl⟩
  · rw [hcall]
    exact notifies_writeFailureMessage message c
  · rw [hcall]
    exact (notifies_writeFailureMessage message
      ((c.putCall now table k entry).notifyObserver (entry.state.call k))).of_same
        ⟨rfl, rfl, hput entry, rfl, rfl⟩ ⟨rfl, rfl, rfl, rfl, rfl⟩

end ProgressController

namespace DisplayState
open ProgressController

variable {s t : DisplayState} {a : DisplayAction} {tables : List (String × Nat)} {options : Options}

/-- Where the render thread can be. -/
structure Threaded (s : DisplayState) : Prop where
  started : s.controller.interactiveTty = true → s.controller.tables ≠ [] →
    s.controller.renderThread ≠ .notStarted
  waiting : s.controller.renderThread = .waiting →
    s.controller.stopRequested = false ∧ s.controller.renderDirty = false
  due : s.controller.renderDirty = true →
    s.controller.interactiveTty = true ∧ s.controller.tables ≠ []
  requested : s.controller.stopRequested = true ↔ s.stop ≠ .idle
  exited : s.controller.renderThread = .exited → s.controller.stopRequested = true
  joined : s.stop = .lastFrame ∨ s.stop = .returned →
    s.controller.renderThread = .notStarted ∨ s.controller.renderThread = .exited

lemma Threaded.notified (h : s.Threaded) {d : ProgressController}
    (hd : Notifies s.controller d) : Threaded { s with controller := d } := by
  have hne : d.tables ≠ [] ↔ s.controller.tables ≠ [] := by
    rw [← List.length_pos_iff, ← List.length_pos_iff, hd.tables]
  constructor
  · intro hinteractive htables
    rw [hd.interactive] at hinteractive
    have hstarted := h.started hinteractive (hne.mp htables)
    rcases hd.thread with hthread | ⟨-, hthread⟩
    · rwa [hthread]
    · rw [hthread]
      decide
  · intro hwaiting
    have hbefore : s.controller.renderThread = .waiting := by
      rcases hd.thread with hthread | ⟨hthread, -⟩
      · rwa [← hthread]
      · exact hthread
    obtain ⟨hstop, hclean⟩ := h.waiting hbefore
    refine ⟨hd.stopRequested.trans hstop, ?_⟩
    by_contra hdirty
    rcases hd.woken (by simpa using hdirty) with hdue | hwoken
    · rw [hclean] at hdue
      cases hdue
    · exact hwoken hwaiting
  · intro hdirty
    rw [hd.interactive, hne]
    exact (hd.due hdirty).elim h.due id
  · rw [hd.stopRequested]
    exact h.requested
  · intro hexited
    rw [hd.stopRequested]
    rcases hd.thread with hthread | ⟨-, hthread⟩
    · exact h.exited (hthread ▸ hexited)
    · rw [hthread] at hexited
      cases hexited
  · intro hstop
    rcases hd.thread with hthread | ⟨hthread, -⟩
    · rw [hthread]
      exact h.joined hstop
    · rcases h.joined hstop with hjoined | hjoined
      · rw [hjoined] at hthread
        cases hthread
      · rw [hjoined] at hthread
        cases hthread

lemma Threaded.renderLoop (h : s.Threaded)
    (hthread : s.controller.renderThread = .looping ∨ s.controller.renderThread = .woken) :
    Threaded { s with controller := s.controller.renderLoop } := by
  have hrunning : ¬ (s.controller.renderThread = .notStarted ∨
      s.controller.renderThread = .exited) := by
    rcases hthread with hthread | hthread <;> simp [hthread]
  unfold ProgressController.renderLoop
  by_cases hstop : s.controller.stopRequested = true
  · rw [if_pos hstop]
    exact
      { started := fun _ _ => by simp
        waiting := fun hwaiting => by simp at hwaiting
        due := h.due
        requested := h.requested
        exited := fun _ => hstop
        joined := fun _ => .inr rfl }
  · have hclean : (if s.controller.renderDirty then s.controller.renderFrameLocked
        else s.controller).renderDirty = false := by
      split
      · exact renderDirty_renderFrameLocked _
      · simpa using ‹¬ s.controller.renderDirty = true›
    have hkeeps : (if s.controller.renderDirty then s.controller.renderFrameLocked
        else s.controller).stopRequested = s.controller.stopRequested := by
      split
      · exact (renderFrameLocked_keeps _).2.1
      · rfl
    rw [if_neg hstop]
    exact
      { started := fun _ _ => by simp
        waiting := fun _ => ⟨by simpa using hkeeps.trans (by simpa using hstop), hclean⟩
        due := fun hdirty => by
          dsimp only at hdirty
          rw [hclean] at hdirty
          cases hdirty
        requested := by
          dsimp only
          rw [hkeeps]
          exact h.requested
        exited := fun hexited => by simp at hexited
        joined := fun hjoin => absurd (h.joined hjoin) hrunning }

lemma Threaded.requestStop (h : s.Threaded) :
    Threaded ⟨notifyAll { s.controller with stopRequested := true }, .join⟩ := by
  have hthread : (notifyAll { s.controller with stopRequested := true }).renderThread =
      if s.controller.renderThread = .waiting then .woken else s.controller.renderThread := rfl
  constructor
  · intro hinteractive htables
    dsimp only
    rw [hthread]
    split
    · decide
    · exact h.started hinteractive htables
  · intro hwaiting
    dsimp only at hwaiting
    rw [hthread] at hwaiting
    split at hwaiting
    · cases hwaiting
    · exact absurd hwaiting ‹_›
  · exact h.due
  · exact iff_of_true rfl (fun hstop => nomatch hstop)
  · exact fun _ => rfl
  · rintro (hstop | hstop)
    · cases hstop
    · cases hstop

/-- `Stop` goes on with a thread that has ended or that there never was. -/
lemma Threaded.proceed (h : s.Threaded) {stop : StopPc} (hlater : s.stop ≠ .idle)
    (hstop : stop ≠ .idle)
    (hthread : s.controller.renderThread = .notStarted ∨ s.controller.renderThread = .exited)
    {c : ProgressController} (hc : Notifies s.controller c) : Threaded ⟨c, stop⟩ := by
  have hkept : c.renderThread = s.controller.renderThread := by
    rcases hc.thread with hsame | ⟨hwaiting, -⟩
    · exact hsame
    · rw [hwaiting] at hthread
      rcases hthread with hthread | hthread <;> cases hthread
  have hnext := h.notified hc
  exact
    { started := hnext.started
      waiting := hnext.waiting
      due := hnext.due
      requested := by
        rw [hnext.requested]
        exact iff_of_true hlater hstop
      exited := hnext.exited
      joined := fun _ => by
        dsimp only
        rwa [hkept] }

lemma Threaded.stopStep (h : s.Threaded) (hstep : s.stopStep = some t) : t.Threaded := by
  unfold DisplayState.stopStep at hstep
  dsimp only at hstep
  cases hpc : s.stop with
  | idle =>
    have hnot : ¬ s.controller.stopRequested = true := fun hstop => h.requested.mp hstop hpc
    rw [hpc, if_neg hnot] at hstep
    cases hstep
    exact h.requestStop
  | join =>
    rw [hpc] at hstep
    cases hthread : s.controller.renderThread with
    | notStarted =>
      rw [hthread] at hstep
      cases hstep
      exact h.proceed (by rw [hpc]; decide) (by decide) (.inl hthread) (.refl _)
    | exited =>
      rw [hthread] at hstep
      cases hstep
      exact h.proceed (by rw [hpc]; decide) (by decide) (.inr hthread) (.refl _)
    | looping =>
      rw [hthread] at hstep
      cases hstep
    | waiting =>
      rw [hthread] at hstep
      cases hstep
    | woken =>
      rw [hthread] at hstep
      cases hstep
  | lastFrame =>
    have hthread := h.joined (.inl hpc)
    rw [hpc] at hstep
    dsimp only at hstep
    split at hstep
    · cases hstep
      have hframe := (notifies_renderFrameLocked { s.controller with renderDirty := true })
      refine h.proceed (by rw [hpc]; decide) (by decide) hthread (notifies_of_clean ?_ ?_ ?_ ?_ ?_)
      · exact hframe.interactive
      · exact hframe.stopRequested
      · exact hframe.tables
      · exact (renderFrameLocked_keeps _).2.2.2
      · exact renderDirty_renderFrameLocked _
    · cases hstep
      exact h.proceed (by rw [hpc]; decide) (by decide) hthread (.refl _)
  | returned =>
    rw [hpc] at hstep
    cases hstep

lemma Threaded.step (h : s.Threaded) (hstep : s.step a = some t) : t.Threaded := by
  cases a with
  | call now table k =>
    cases hstep
    exact h.notified (notifies_call now table k s.controller)
  | renderLoop =>
    simp only [DisplayState.step] at hstep
    split at hstep
    · cases hstep
      exact h.renderLoop (.inl ‹_›)
    · cases hstep
      exact h.renderLoop (.inr ‹_›)
    · cases hstep
  | wake =>
    simp only [DisplayState.step] at hstep
    split at hstep
    · cases hstep
      obtain ⟨-, hclean⟩ := h.waiting ‹_›
      refine h.notified ⟨rfl, rfl, rfl, .inr ⟨‹_›, rfl⟩, .inl, .inl⟩
    · cases hstep
  | stop => exact h.stopStep hstep

lemma threaded_initial (tables : List (String × Nat)) (options : Options) :
    (initial tables options).Threaded := by
  have hclean : (initial tables options).controller.renderDirty = false := renderDirty_new tables options
  have hthread : (initial tables options).controller.renderThread = .looping ∨
      ((initial tables options).controller.renderThread = .notStarted ∧
        ((initial tables options).controller.interactiveTty &&
          !(initial tables options).controller.tables.isEmpty) = false) := by
    change (ProgressController.new tables options).renderThread = _ ∨
      (ProgressController.new tables options).renderThread = _ ∧
        ((ProgressController.new tables options).interactiveTty &&
          !(ProgressController.new tables options).tables.isEmpty) = false
    unfold ProgressController.new
    dsimp only
    split
    · exact .inl rfl
    · exact .inr ⟨rfl, Bool.eq_false_iff.mpr ‹_›⟩
  have hgoing : (initial tables options).controller.stopRequested = false := by
    change (ProgressController.new tables options).stopRequested = false
    unfold ProgressController.new
    dsimp only
    split
    · exact (renderFrameLocked_keeps _).2.1
    · rfl
  have hnever : ∀ thread, thread ≠ .looping → thread ≠ .notStarted →
      (initial tables options).controller.renderThread ≠ thread := by
    rintro thread hlooping hnotStarted rfl
    rcases hthread with h | ⟨h, -⟩
    · exact hlooping h
    · exact hnotStarted h
  constructor
  · intro hinteractive htables hnotStarted
    rcases hthread with h | ⟨-, h⟩
    · rw [hnotStarted] at h
      cases h
    · rw [hinteractive, Bool.true_and, List.isEmpty_eq_false_iff.mpr htables] at h
      cases h
  · exact fun hwaiting => absurd hwaiting (hnever .waiting (by decide) (by decide))
  · intro hdirty
    rw [hclean] at hdirty
    cases hdirty
  · rw [hgoing]
    exact iff_of_false Bool.false_ne_true (fun hne => hne rfl)
  · exact fun hexited => absurd hexited (hnever .exited (by decide) (by decide))
  · rintro (hstop | hstop) <;> cases hstop

lemma threaded_of_reachable (h : Reachable step (.initial tables options) s) : s.Threaded :=
  h.invariant (threaded_initial tables options) fun _ _ _ hs hstep => hs.step hstep

lemma shown_frame {c : ProgressController} (hinteractive : c.interactiveTty = true)
    (htables : c.tables ≠ []) : c.renderFrameLocked.shown = c.states := by
  unfold renderFrameLocked
  rw [hinteractive, List.isEmpty_eq_false_iff.mpr htables, if_neg (by decide)]
  dsimp only
  split <;> rfl

/-- A frame that is due before the end is drawn by the next step of the render thread, which can be
taken. -/
lemma Threaded.rendered (h : s.Threaded) (hdue : s.controller.renderDirty = true)
    (hgoing : s.controller.stopRequested = false) :
    ∃ t, s.step .renderLoop = some t ∧ t.controller.renderDirty = false ∧
      t.controller.shown = s.controller.states := by
  obtain ⟨hinteractive, htables⟩ := h.due hdue
  have hloop : s.controller.renderLoop =
      { s.controller.renderFrameLocked with renderThread := .waiting } := by
    unfold ProgressController.renderLoop
    rw [if_neg (by rw [hgoing]; decide), if_pos hdue]
  have hframe : s.controller.renderLoop.renderDirty = false ∧
      s.controller.renderLoop.shown = s.controller.states := by
    rw [hloop]
    exact ⟨renderDirty_renderFrameLocked s.controller, shown_frame hinteractive htables⟩
  refine ⟨{ s with controller := s.controller.renderLoop }, ?_, hframe⟩
  unfold DisplayState.step
  cases hthread : s.controller.renderThread with
  | notStarted => exact absurd hthread (h.started hinteractive htables)
  | looping => rfl
  | waiting =>
    rw [(h.waiting hthread).2] at hdue
    cases hdue
  | woken => rfl
  | exited =>
    rw [h.exited hthread] at hgoing
    cases hgoing

/-- `Stop` can return, with the last frame of the tables on a terminal, by steps of its own and of the
render thread. -/
def Stops (s : DisplayState) : Prop :=
  ∃ taken t, (∀ a ∈ taken, a = .stop ∨ a = .renderLoop) ∧ exec step s taken = some t ∧
    t.stop = .returned ∧ (t.controller.interactiveTty = true → t.controller.tables ≠ [] →
      t.controller.renderThread = .exited ∧ t.controller.shown = t.controller.states)

lemma Stops.after (h : t.Stops) (hown : a = .stop ∨ a = .renderLoop) (hstep : s.step a = some t) :
    s.Stops := by
  obtain ⟨taken, u, htaken, hrun, hend⟩ := h
  refine ⟨a :: taken, u, List.forall_mem_cons.mpr ⟨hown, htaken⟩, ?_, hend⟩
  rw [exec_cons, hstep, Option.bind_some, hrun]

lemma Threaded.stops_lastFrame (h : s.Threaded) (hpc : s.stop = .lastFrame) : s.Stops := by
  have hthread := h.joined (.inl hpc)
  have hsingle : ∀ t, s.stopStep = some t → exec DisplayState.step s [.stop] = some t := by
    intro t ht
    change (s.stopStep).bind _ = _
    rw [ht]
    rfl
  by_cases hinteractive : s.controller.interactiveTty = true
  · let c := renderFrameLocked { s.controller with renderDirty := true }
    have hstep : s.stopStep = some ⟨c, .returned⟩ := by
      unfold DisplayState.stopStep
      rw [hpc]
      exact if_pos hinteractive
    obtain ⟨htty, -, htables, hkept⟩ := renderFrameLocked_keeps
      { s.controller with renderDirty := true }
    refine ⟨[.stop], _, by simp, hsingle _ hstep, rfl, fun _ hne => ⟨?_, ?_⟩⟩
    · have hne' : s.controller.tables ≠ [] := by
        rwa [htables] at hne
      exact hkept.trans (hthread.resolve_left (h.started hinteractive hne'))
    · have hne' : s.controller.tables ≠ [] := by
        rwa [htables] at hne
      exact (shown_frame (c := { s.controller with renderDirty := true }) hinteractive hne').trans
        (states_renderFrameLocked { s.controller with renderDirty := true }).symm
  · have hstep : s.stopStep = some { s with stop := .returned } := by
      unfold DisplayState.stopStep
      rw [hpc]
      exact if_neg hinteractive
    exact ⟨[.stop], _, by simp, hsingle _ hstep, rfl, fun htty => absurd htty hinteractive⟩

lemma Threaded.stops_joined (h : s.Threaded) (hpc : s.stop = .join)
    (hthread : s.controller.renderThread = .notStarted ∨ s.controller.renderThread = .exited) :
    s.Stops := by
  have hstep : s.step .stop = some { s with stop := .lastFrame } := by
    change s.stopStep = _
    unfold DisplayState.stopStep
    rw [hpc]
    rcases hthread with hthread | hthread <;> simp only [hthread]
  exact ((h.step hstep).stops_lastFrame rfl).after (.inl rfl) hstep

/-- The thread is not waiting when it is joined, and its next step is its last. -/
lemma Threaded.stops_join (h : s.Threaded) (hpc : s.stop = .join) : s.Stops := by
  have hstop : s.controller.stopRequested = true := h.requested.mpr (by rw [hpc]; decide)
  have hexit : (s.controller.renderThread = .looping ∨ s.controller.renderThread = .woken) →
      s.Stops := by
    intro hthread
    have hstep : s.step .renderLoop =
        some { s with controller := { s.controller with renderThread := .exited } } := by
      have hloop : s.controller.renderLoop = { s.controller with renderThread := .exited } :=
        if_pos hstop
      unfold DisplayState.step
      rcases hthread with hthread | hthread <;> simp only [hthread, hloop]
    exact ((h.step hstep).stops_joined hpc (.inr rfl)).after (.inr rfl) hstep
  cases hthread : s.controller.renderThread with
  | notStarted => exact h.stops_joined hpc (.inl hthread)
  | looping => exact hexit (.inl hthread)
  | waiting =>
    rw [(h.waiting hthread).1] at hstop
    cases hstop
  | woken => exact hexit (.inr hthread)
  | exited => exact h.stops_joined hpc (.inr hthread)

lemma Threaded.stops (h : s.Threaded) (hpc : s.stop ≠ .returned) : s.Stops := by
  cases hstop : s.stop with
  | idle =>
    have hnot : ¬ s.controller.stopRequested = true := fun hrequested => h.requested.mp hrequested hstop
    have hstep : s.step .stop =
        some ⟨notifyAll { s.controller with stopRequested := true }, .join⟩ := by
      change s.stopStep = _
      unfold DisplayState.stopStep
      rw [hstop]
      exact if_neg hnot
    exact ((h.step hstep).stops_join rfl).after (.inl rfl) hstep
  | join => exact h.stops_join hstop
  | lastFrame => exact h.stops_lastFrame hstop
  | returned => exact absurd hstop hpc

/-- Whatever the order of the calls, the thread and `Stop`: a frame that is due is drawn by the next
step of the thread, which can be taken, and from everywhere `Stop` can return. -/
theorem render_keepsUp (h : Reachable step (.initial tables options) s) :
    (s.controller.renderDirty = true → s.controller.stopRequested = false →
      ∃ t, s.step .renderLoop = some t ∧ t.controller.renderDirty = false ∧
        t.controller.shown = s.controller.states) ∧
      (s.stop ≠ .returned → s.Stops) :=
  ⟨(threaded_of_reachable h).rendered, (threaded_of_reachable h).stops⟩

/-- A table is started while the thread waits. -/
theorem render_keepsUp_started :
    let s : DisplayState := initial [("region", 5)] ⟨true, true, 1000⟩
    let t : DisplayState := ⟨s.controller.renderLoop.call 0 0 (.markTableStarted 1), .idle⟩
    t.Stops ∧ ∃ u, t.step .renderLoop = some u ∧ u.controller.renderDirty = false ∧
      u.controller.shown = t.controller.states := by
  intro s t
  have hloop : s.step .renderLoop = some { s with controller := s.controller.renderLoop } := rfl
  have hreached : Reachable step s t :=
    ((Reachable.init s).next hloop).next (a := .call 0 0 (.markTableStarted 1)) rfl
  have hkeepsUp := render_keepsUp hreached
  exact ⟨hkeepsUp.2 (by decide), hkeepsUp.1 rfl rfl⟩

end DisplayState

end Schengen.Storage
