import SearchStore.Proofs.Bulk.Race

/-! # Calls without others in between

The steps of a call, taken one after the other while nothing else happens, do
what `Indexer.add` and `Indexer.close` do in one: `exists_acts_add` and
`exists_acts_close`. What the workers do for a call that closes are steps of a
run; `Acts.of_steps` takes them into a scene.
-/

namespace SearchStore

namespace Worker

variable {σ : Type} (server : Session.Server σ)

theorem added_settle (t : Tally) (settled : List (BulkItem × ItemOutcome)) :
    (settle t settled).stats.added = t.stats.added := by
  simp only [settle]
  generalize t.stats = s
  induction settled generalizing s with
  | nil => rfl
  | cons x rest ih => rw [List.foldl_cons, ih, BulkStats.count_added]

/-- Sending adds no items. -/
theorem added_flush (w : Worker) (t : Tally) (x : σ) :
    (Session.run server (w.flush t) x).1.2.stats.added = t.stats.added := by
  by_cases hitems : w.items = #[]
  · rw [run_flush_nil server w t x hitems]
  · obtain ⟨n, hstats⟩ := Tally.stats_hear { t with stats.requests := t.stats.requests + 1 }
      w.body.utf8ByteSize (server (request w.body) x).1
    rw [(run_flush server w t x hitems).1, added_settle, hstats]

theorem added_receive (c : BulkConfig) (item : BulkItem) (w : Worker) (t : Tally) (x : σ) :
    (Session.run server (w.receive c item t) x).1.2.stats.added = t.stats.added := by
  rw [receive]
  split
  · exact added_flush server _ t x
  · rfl

end Worker

namespace Bulk

variable {c : BulkConfig} {s t : Scene} {r r' : Run} {σ : Type} (server : Session.Server σ)

/-! ## Workers add no items -/

variable {server} in
theorem added_eachWorker {f : Worker → Tally → Session (Worker × Tally)}
    (hf : ∀ w t (x : σ), (Session.run server (f w t) x).1.2.stats.added = t.stats.added)
    (ws : List Worker) (t : Tally) (x : σ) :
    (Session.run server (Indexer.eachWorker f ws t) x).1.2.stats.added = t.stats.added := by
  induction ws generalizing t x with
  | nil => rfl
  | cons w rest ih =>
    simp only [Indexer.eachWorker, Session.run_bind, Session.run_pure]
    rw [ih, hf]

variable {server} in
theorem added_atWorker {f : Worker → Tally → Session (Worker × Tally)}
    (hf : ∀ w t (x : σ), (Session.run server (f w t) x).1.2.stats.added = t.stats.added)
    (n : Nat) (ws : List Worker) (t : Tally) (x : σ) :
    (Session.run server (Indexer.atWorker f n ws t) x).1.2.stats.added = t.stats.added := by
  induction ws generalizing n with
  | nil => cases n <;> rfl
  | cons w rest ih =>
    cases n with
    | zero =>
      simp only [Indexer.atWorker, Session.run_bind, Session.run_pure]
      exact hf w t x
    | succ n =>
      simp only [Indexer.atWorker, Session.run_bind, Session.run_pure]
      exact ih n

theorem added_drainSome (n : Nat) (ix : Indexer) (x : σ) :
    (Session.run server (Indexer.drainSome n ix) x).1.tally.stats.added = ix.tally.stats.added := by
  induction n generalizing ix x with
  | zero => rfl
  | succ n ih =>
    rw [Indexer.drainSome, Session.run_bind, ih, Indexer.receive]
    split
    · rfl
    · simp only [Session.run_bind, Session.run_pure]
      exact added_atWorker (Worker.added_receive server ix.config _) 0 ix.workers ix.tally x

/-! ## Steps of workers in a scene -/

/-- The phases in the order in which they follow each other. -/
def rank : BulkPhase → Nat
  | .accepting => 0
  | .flushing => 1
  | .closed => 2

theorem rank_injective : Function.Injective rank := by
  intro p q h
  cases p <;> cases q <;> first | rfl | cases h

/-- Phases and counts of items never go back. -/
theorem Step.le (hstep : Step c r r') :
    rank r.phase ≤ rank r'.phase ∧ r.tally.stats.added ≤ r'.tally.stats.added := by
  cases hstep with
  | call | giveUp | hold | schedule | pass | settled => exact ⟨le_rfl, le_rfl⟩
  | fill | flush => exact ⟨le_rfl, le_rfl⟩
  | accept => exact ⟨le_rfl, Nat.le_succ _⟩
  | @answer _ _ w _ answer =>
    obtain ⟨n, hstats⟩ := r.tally.stats_hear w.body.utf8ByteSize answer
    exact ⟨le_rfl, by simp only [Run.hear, hstats, le_rfl]⟩
  | settle => exact ⟨le_rfl, by simp only [Run.settle, BulkStats.count_added, le_rfl]⟩
  | close hphase => exact ⟨by simp [hphase, rank], le_rfl⟩
  | closed hphase _ => exact ⟨by simp [hphase, rank], le_rfl⟩

theorem Steps.le (hsteps : Steps c r r') :
    rank r.phase ≤ rank r'.phase ∧ r.tally.stats.added ≤ r'.tally.stats.added := by
  induction hsteps with
  | refl => exact ⟨le_rfl, le_rfl⟩
  | step _ hstep ih => exact ⟨ih.1.trans hstep.le.1, ih.2.trans hstep.le.2⟩

/-- A step that neither accepts an item nor changes the phase is one that no
caller takes, or a caller comes or goes, which does not matter to the others. -/
theorem Step.works (hstep : Step c r r') (hphase : r'.phase = r.phase)
    (hadded : r'.tally.stats.added = r.tally.stats.added) :
    Works c { r with callers := [] } { r' with callers := [] } ∨
      { r' with callers := [] } = { r with callers := [] } := by
  cases hstep with
  | call | giveUp => exact .inr rfl
  | accept =>
    dsimp only at hadded
    omega
  | hold hqueue hhands hfull =>
    exact .inl ⟨.hold (r := { r with callers := [] }) hqueue hhands hfull, rfl, rfl, rfl⟩
  | fill hqueue hhands hfull =>
    exact .inl ⟨.fill (r := { r with callers := [] }) hqueue hhands hfull, rfl, rfl, rfl⟩
  | flush hhands hitems =>
    exact .inl ⟨.flush (r := { r with callers := [] }) hhands hitems, rfl, rfl, rfl⟩
  | schedule hhands due =>
    exact .inl ⟨.schedule (r := { r with callers := [] }) hhands due, rfl, rfl, rfl⟩
  | pass now => exact .inl ⟨.pass (r := { r with callers := [] }) now, rfl, rfl, rfl⟩
  | answer hhands answer =>
    exact .inl ⟨.answer (r := { r with callers := [] }) hhands answer, rfl, rfl, rfl⟩
  | settle hhands => exact .inl ⟨.settle (r := { r with callers := [] }) hhands, rfl, rfl, rfl⟩
  | settled hhands => exact .inl ⟨.settled (r := { r with callers := [] }) hhands, rfl, rfl, rfl⟩
  | close hphase' | closed hphase' =>
    rw [hphase'] at hphase
    cases hphase

/-- Steps of a run that neither accept an item nor change the phase are steps of
the scene. -/
theorem Acts.of_steps (hsteps : Steps c s.run r) (hcallers : s.run.callers = [])
    (hended : s.ended = []) (hphase : r.phase = s.run.phase)
    (hadded : r.tally.stats.added = s.run.tally.stats.added) :
    Acts c s { s with run := { r with callers := [] } } := by
  induction hsteps with
  | refl =>
    rw [← hcallers]
    exact .refl
  | @step q r hsteps hstep ih =>
    -- what is so in the end was so all the time
    have hphase' : q.phase = s.run.phase := by
      apply rank_injective
      have hbefore := hsteps.le.1
      have hafter := hstep.le.1
      rw [hphase] at hafter
      omega
    have hadded' : q.tally.stats.added = s.run.tally.stats.added := by
      have hbefore := hsteps.le.2
      have hafter := hstep.le.2
      omega
    have hacts := ih hphase' hadded'
    rcases hstep.works (hphase.trans hphase'.symm) (hadded.trans hadded'.symm) with hworks | hsame
    · exact hacts.act (.work hworks (by simp [hended]))
    · rw [hsame]
      exact hacts

/-- All workers end, as none holds anything and nobody can send. -/
theorem exists_acts_exit (hdrained : s.run.Drained) (hhungUp : s.HungUp) :
    ∃ ended, Acts c s { s with ended := ended } ∧ Scene.AllEnded { s with ended := ended } := by
  suffices h : ∀ n ≤ s.run.hands.length,
      ∃ ended, Acts c s { s with ended := ended } ∧ ∀ i < n, i ∈ ended from h _ le_rfl
  intro n
  induction n with
  | zero => exact fun _ => ⟨s.ended, .refl, nofun⟩
  | succ n ih =>
    intro hn
    obtain ⟨ended, hacts, hall⟩ := ih (Nat.le_of_succ_le hn)
    obtain ⟨hidle, hitems⟩ := hdrained.hands _ (List.getElem_mem hn)
    have hhand : s.run.hands[n]? = some ⟨(s.run.hands[n]).worker, .idle⟩ := by
      rw [List.getElem?_eq_getElem hn, ← hidle]
    refine ⟨n :: ended, hacts.act (.exit hhand hitems hdrained.queue hhungUp), fun i hi => ?_⟩
    rcases Nat.lt_succ_iff_lt_or_eq.mp hi with hlt | rfl
    · exact List.mem_cons_of_mem n (hall i hlt)
    · exact List.mem_cons_self

/-! ## Calls -/

/-- A call of `add` that nothing comes in between does what `Indexer.add` does. -/
theorem exists_acts_add (item : BulkItem) (hsender : s.phase = .accepting → s.sender = true)
    (hroom : s.run.queue.length < max c.queueCapacity 1) (hended : ¬ s.AllEnded) :
    ∃ t result, Acts c s t ∧ t.adders = s.adders ++ [⟨item, .returned result⟩] ∧
      match (s.indexer c).add item with
      | .ok ix => result = .ok () ∧ t.indexer c = ix
      | .error e => result = .error e ∧ t.indexer c = s.indexer c := by
  have hcall : Acts c s { s with adders := s.adders ++ [⟨item, .called⟩] } := .act .refl (.add item)
  by_cases hphase : s.phase = .accepting
  · have hadd : (s.indexer c).add item = .ok { s.indexer c with
        queue := s.run.queue ++ [item]
        tally := { s.run.tally with stats := { s.stats with added := s.added + 1 } } } := by
      simp [Indexer.add, Scene.indexer, hphase, Run.indexer, Scene.stats]
    refine ⟨_, .ok (), ((((((hcall.act (.move rfl (.check hphase))).act
      (.move rfl (.clone (hsender hphase)))).act (.move rfl .encode)).act
      (.enqueue rfl hroom hended)).act (.count rfl)).act (.move rfl .finish)), rfl, ?_⟩
    rw [hadd]
    exact ⟨rfl, rfl⟩
  · have hadd : (s.indexer c).add item = .error .bulkClosed := by
      rw [Indexer.add]
      split
      · exact absurd ‹_› hphase
      · rfl
    refine ⟨_, .error .bulkClosed, hcall.act (.move rfl (.refuse hphase)), rfl, ?_⟩
    rw [hadd]
    exact ⟨rfl, rfl⟩

/-- What `Indexer.close` does until the workers have ended, as a run. -/
theorem Rests.exists_flushed {ix : Indexer} (h : Rests c ix r) (hphase : ix.phase = .accepting)
    (x : σ) :
    let out := Session.run server ix.close x
    ∃ q, Steps c { r with phase := .flushing } q ∧ q.sent = r.sent ++ out.2.1.requests ∧
      q.phase = .flushing ∧ q.Drained ∧ q.tally.stats.added = r.tally.stats.added ∧
      out.1 = (match q.tally.firstError with | some e => .error e | none => .ok q.tally.stats,
        { q.indexer c with phase := .closed, tally.firstError := none }) := by
  have hflushing : Rests c { ix with phase := .flushing } { r with phase := .flushing } :=
    { h with phase := rfl }
  have hadded : r.tally.stats.added = ix.tally.stats.added := by rw [h.tally]
  simp only [Indexer.close, hphase, Session.run_bind, Session.run_pure]
  -- one worker takes all that is queued
  obtain ⟨hqueue, hphase₁⟩ := run_drainSome_frame server { ix with phase := .flushing }
    ix.queue.length x
  have hadded₁ := added_drainSome server ix.queue.length { ix with phase := .flushing } x
  have hdrain : Carries c server _ _ := hflushing.drainSome ix.queue.length
  replace hdrain := hdrain x
  rw [Indexer.drain]
  generalize Session.run server (Indexer.drainSome ix.queue.length _) x = drained at *
  -- and then each sends what it holds
  obtain ⟨r₁, hfollows₁, hrests₁⟩ := hdrain
  obtain ⟨r₂, hfollows₂, hrests₂, hdrained⟩ := hrests₁.flushAll
    (by rw [hqueue, List.drop_length]) server drained.2.2
  have hadded₂ := added_eachWorker (Worker.added_flush server) drained.1.workers drained.1.tally
    drained.2.2
  generalize Session.run server (Indexer.eachWorker _ _ _) _ = flushed at *
  have hfollows := hfollows₁.trans hfollows₂
  refine ⟨r₂, hfollows.steps, ?_, ?_, hdrained, ?_, ?_⟩
  · simpa [Session.Trace.append_def] using hfollows.sent
  · exact hrests₂.phase.trans hphase₁
  · rw [hrests₂.tally, hadded₂, hadded₁, hadded]
  · cases hfirst : flushed.1.2.firstError <;> simp [hrests₂.indexer_eq, hrests₂.tally, hfirst]

/-- A call of `close` that nothing comes in between, while no other call is on
its way, does what `Indexer.close` does. -/
theorem exists_acts_close (hrests : Rests c (s.indexer c) s.run)
    (hclones : ∀ a ∈ s.adders, a.stage.holds = false) (hended : s.phase = .accepting → s.ended = [])
    (x : σ) :
    let out := Session.run server (s.indexer c).close x
    ∃ t k, Acts c s t ∧ t.closers = s.closers ++ [k] ∧ k.result? = some out.1.1 ∧
      t.indexer c = out.1.2 ∧ t.run.sent = s.run.sent ++ out.2.1.requests := by
  intro out
  have hcall : Acts c s { s with closers := s.closers ++ [.called] } := .act .refl .close
  by_cases hphase : s.phase = .accepting
  · obtain ⟨r, hsteps, hsent, hflushing, hdrained, hadded, hout⟩ :=
      hrests.exists_flushed server hphase x
    have hstats : { r.tally.stats with added := s.added } = r.tally.stats := by
      have hadded' : s.added = r.tally.stats.added := by
        rw [hadded, hrests.tally]
        rfl
      rw [hadded']
    change out.1 = _ at hout
    have hwaiting : Acts c s { s with
        closers := s.closers ++ [.waiting]
        phase := .flushing
        sender := false
        run := { s.run with phase := .flushing } } :=
      (hcall.act (.begin rfl hphase)).act (.hangUp rfl)
    have hworked := hwaiting.trans
      (Acts.of_steps hsteps hrests.callers (hended hphase) hflushing hadded)
    rw [← hdrained.callers] at hworked
    obtain ⟨ended, hexits, hall⟩ := exists_acts_exit (c := c) (s := { s with
      closers := s.closers ++ [.waiting]
      phase := .flushing
      sender := false
      run := r }) hdrained ⟨rfl, hclones⟩
    refine ⟨_, _, ((hworked.trans hexits).act (.mark rfl hall)).act (.report rfl), rfl, ?_, ?_, hsent⟩
    · rw [hout, Scene.stats, hstats]
      cases r.tally.firstError <;> rfl
    · rw [hout]
      simp only [Scene.indexer, Scene.stats, hstats]
      rfl
  · have hclose : (s.indexer c).close = .done (.error .bulkClosed, s.indexer c) := by
      rw [Indexer.close]
      split
      · exact absurd ‹_› hphase
      · rfl
    have hout : out = ((.error .bulkClosed, s.indexer c), {}, x) := by
      simp only [out, hclose, Session.run]
    refine ⟨_, .refused, hcall.act (.reject rfl hphase), rfl, ?_⟩
    rw [hout]
    exact ⟨rfl, rfl, (List.append_nil _).symm⟩

end Bulk

end SearchStore
