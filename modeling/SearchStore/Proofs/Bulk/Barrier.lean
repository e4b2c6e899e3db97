import SearchStore.Proofs.Bulk.Race

/-! # Closing is a barrier

A call of `add` that has seen the indexer accept may still be on its way when
another call closes. It keeps its clone of the sender until its item is counted,
and no worker ends while there is a clone. `Fits` is the invariant of scenes that
says so, and `Act.fits` keeps it from one scene to the next.

When the call that closes has returned, the scene is `Sealed`: nothing is on its
way, and what was counted adds up. `Sealed.after` shows that nothing changes any
more.
-/

namespace SearchStore.Bulk

variable {c : BulkConfig} {r r' : Run} {s t u : Scene}

/-! ## Workers at the end -/

theorem Step.length_hands (hstep : Step c r r') : r'.hands.length = r.hands.length := by
  cases hstep <;> simp_all [Run.send, Run.hear, Run.settle]

theorem Reachable.length_hands (h : Reachable c r) : r.hands.length = max c.workers 1 := by
  induction h with
  | refl => simp [Run.start, Indexer.start]
  | step _ hstep ih => rw [hstep.length_hands, ih]

namespace Works

/-- Workers only take from the queue. -/
theorem queue_eq_nil (h : Works c r r') (hcallers : r.callers = []) (hqueue : r.queue = []) :
    r'.queue = [] := by
  obtain ⟨hstep, -, -, -⟩ := h
  cases hstep <;> simp_all [Run.send, Run.hear, Run.settle]

/-- With nothing left to do nothing is sent and nothing counted. -/
theorem of_drained (h : Works c r r') (hdrained : r.Drained) :
    r'.sent = r.sent ∧ r'.tally = r.tally := by
  obtain ⟨hstep, hphase, hcallers, -⟩ := h
  have idle {before after : List Hand} {w : Worker} {d : Doing}
      (hhands : r.hands = before ++ ⟨w, d⟩ :: after) : d = .idle ∧ w.items = #[] :=
    hdrained.hands ⟨w, d⟩ (by simp [hhands])
  cases hstep with
  | call | schedule | pass => exact ⟨rfl, rfl⟩
  | giveUp hcallers' | accept hcallers' => simp [hdrained.callers] at hcallers'
  | hold hqueue | fill hqueue => simp [hdrained.queue] at hqueue
  | flush hhands hitems => exact absurd (idle hhands).2 hitems
  | answer hhands | settle hhands | settled hhands => exact nomatch (idle hhands).1
  | close hphase' => simp [hphase'] at hphase
  | closed hphase' => simp [hphase'] at hphase

end Works

/-! ## Calls -/

namespace Adding.Next

variable {x y : Adding}

theorem isQueued_eq (h : x.Next s y) : y.isQueued = x.isQueued := by
  cases h <;> rfl

theorem isIn_eq (h : x.Next s y) : y.isIn = x.isIn := by
  cases h <;> rfl

/-- Once the sender is gone nobody gets a clone of it. -/
theorem holds_eq_false (h : x.Next s y) (hsender : s.sender = false) (hx : x.holds = false) :
    y.holds = false := by
  cases h with
  | clone hsender' => simp [hsender] at hsender'
  | encode => cases hx
  | check | refuse | miss | bounce | giveUp | finish => rfl

end Adding.Next

/-- Once nobody can send to the queue, nobody will. -/
theorem Act.hungUp (h : Act c s t) (hhungUp : s.HungUp) : t.HungUp := by
  obtain ⟨hsender, hclones⟩ := hhungUp
  cases h with
  | add item =>
    exact ⟨hsender, List.forall_mem_append.mpr ⟨hclones, List.forall_mem_singleton.mpr rfl⟩⟩
  | move hadders hnext =>
    rw [hadders, List.forall_mem_append, List.forall_mem_cons] at hclones
    obtain ⟨has, hx, hbs⟩ := hclones
    refine ⟨hsender, List.forall_mem_append.mpr ⟨has, List.forall_mem_cons.mpr ⟨?_, hbs⟩⟩⟩
    exact hnext.holds_eq_false hsender hx
  | enqueue hadders _ _ | count hadders =>
    -- the call holds a clone of the sender
    rw [hadders, List.forall_mem_append, List.forall_mem_cons] at hclones
    cases hclones.2.1
  | hangUp => exact ⟨rfl, hclones⟩
  | close | reject | begin | mark | report | work | exit => exact ⟨hsender, hclones⟩

/-- Where the call that closes is, and what it has changed so far. -/
inductive Stands (s : Scene) : List Closing → Prop
  | accepting (hphase : s.phase = .accepting) (hsender : s.sender = true)
      (hrun : s.run.phase = .accepting) : Stands s []
  | begun (hphase : s.phase = .flushing) (hsender : s.sender = true)
      (hrun : s.run.phase = .flushing) : Stands s [.begun]
  | waiting (hphase : s.phase = .flushing) (hsender : s.sender = false)
      (hrun : s.run.phase = .flushing) : Stands s [.waiting]
  | marked (hphase : s.phase = .closed) (hsender : s.sender = false)
      (hrun : s.run.phase = .flushing) (hended : s.AllEnded) : Stands s [.marked]
  | reported (firstError : Option Error) (hphase : s.phase = .closed) (hsender : s.sender = false)
      (hrun : s.run.phase = .closed) (hended : s.AllEnded) :
      Stands s [.reported s.stats firstError]

namespace Stands

variable {l : List Closing}

theorem length_le_one (h : Stands s l) : l.length ≤ 1 := by
  cases h <;> simp

/-- What other calls do does not matter, unless all workers have ended. -/
theorem congr (h : Stands s l) (hphase : t.phase = s.phase) (hsender : t.sender = s.sender)
    (hrun : t.run.phase = s.run.phase) (hended : s.AllEnded → t.AllEnded ∧ t.stats = s.stats) :
    Stands t l := by
  cases h with
  | accepting h₁ h₂ h₃ => exact .accepting (hphase.trans h₁) (hsender.trans h₂) (hrun.trans h₃)
  | begun h₁ h₂ h₃ => exact .begun (hphase.trans h₁) (hsender.trans h₂) (hrun.trans h₃)
  | waiting h₁ h₂ h₃ => exact .waiting (hphase.trans h₁) (hsender.trans h₂) (hrun.trans h₃)
  | marked h₁ h₂ h₃ h₄ =>
    exact .marked (hphase.trans h₁) (hsender.trans h₂) (hrun.trans h₃) (hended h₄).1
  | reported firstError h₁ h₂ h₃ h₄ =>
    rw [← (hended h₄).2]
    exact .reported firstError (hphase.trans h₁) (hsender.trans h₂) (hrun.trans h₃) (hended h₄).1

/-- While the indexer accepts no call closes it. -/
theorem eq_nil (h : Stands s l) (hphase : s.phase = .accepting) :
    l = [] ∧ s.sender = true ∧ s.run.phase = .accepting := by
  cases h with
  | accepting _ hsender hrun => exact ⟨rfl, hsender, hrun⟩
  | begun h₁ | waiting h₁ | marked h₁ | reported _ h₁ =>
    rw [hphase] at h₁
    cases h₁

/-- There is one call that closes, and it is the only one wherever it is. -/
theorem of_split {as bs : List Closing} {k : Closing} (hk : k.proceeds = true)
    (h : Stands s ((as ++ k :: bs).filter Closing.proceeds)) :
    Stands s [k] ∧ ∀ k', k'.proceeds = true → (as ++ k' :: bs).filter Closing.proceeds = [k'] := by
  have hlength := h.length_le_one
  rw [List.filter_append, List.filter_cons_of_pos hk, List.length_append, List.length_cons]
    at hlength
  have has : as.filter Closing.proceeds = [] := List.length_eq_zero_iff.mp (by omega)
  have hbs : bs.filter Closing.proceeds = [] := List.length_eq_zero_iff.mp (by omega)
  have hone : ∀ k', k'.proceeds = true → (as ++ k' :: bs).filter Closing.proceeds = [k'] := by
    intro k' hk'
    rw [List.filter_append, List.filter_cons_of_pos hk', has, hbs]
    rfl
  exact ⟨hone k hk ▸ h, hone⟩

end Stands

/-! ## The invariant -/

/-- The invariant of scenes. -/
structure Fits (c : BulkConfig) (s : Scene) : Prop where
  reachable : Reachable c s.run
  callers : s.run.callers = []
  added : s.run.tally.stats.added = s.added + s.adders.countP fun a => a.stage.isQueued
  accepted : s.run.accepted.Perm ((s.adders.filter fun a => a.stage.isIn).map Adder.item)
  ended : ∀ i ∈ s.ended, ∃ w, s.run.hands[i]? = some ⟨w, .idle⟩ ∧ w.items = #[]
  quiet : s.ended ≠ [] → s.run.queue = [] ∧ s.HungUp
  stands : Stands s (s.closers.filter Closing.proceeds)

namespace Fits

theorem start (c : BulkConfig) : Fits c (Scene.start c) where
  reachable := .refl
  callers := rfl
  added := rfl
  accepted := .nil
  ended := nofun
  quiet := fun h => absurd rfl h
  stands := .accepting rfl rfl rfl

/-- There is a worker that can end. -/
theorem ended_ne_nil (h : Fits c s) (hended : s.AllEnded) : s.ended ≠ [] := by
  have hlength : s.run.hands.length = max c.workers 1 := h.reachable.length_hands
  exact List.ne_nil_of_mem (hended 0 (by omega))

theorem drained (h : Fits c s) (hended : s.AllEnded) : s.run.Drained where
  callers := h.callers
  queue := (h.quiet (h.ended_ne_nil hended)).1
  hands := fun x hx => by
    obtain ⟨i, hi, rfl⟩ := List.getElem_of_mem hx
    obtain ⟨w, hw, hitems⟩ := h.ended i (hended i hi)
    rw [List.getElem?_eq_getElem hi, Option.some.injEq] at hw
    rw [hw]
    exact ⟨rfl, hitems⟩

/-- No worker has ended while a call holds a clone of the sender. -/
theorem ended_eq_nil (h : Fits c s) {a : Adder} (ha : a ∈ s.adders) (hholds : a.stage.holds = true) :
    s.ended = [] := by
  by_contra hne
  simpa [hholds] using (h.quiet hne).2.2 a ha

theorem not_allEnded (h : Fits c s) {a : Adder} (ha : a ∈ s.adders)
    (hholds : a.stage.holds = true) : ¬ s.AllEnded :=
  fun hended => h.ended_ne_nil hended (h.ended_eq_nil ha hholds)

/-- The run is closed only after all workers have ended. -/
theorem run_phase_ne (h : Fits c s) (hended : ¬ s.AllEnded) : s.run.phase ≠ .closed := by
  intro hclosed
  have hstands := h.stands
  generalize s.closers.filter Closing.proceeds = l at hstands
  cases hstands with
  | reported _ _ _ _ hended' => exact hended hended'
  | accepting _ _ hrun | begun _ _ hrun | waiting _ _ hrun | marked _ _ hrun =>
    rw [hclosed] at hrun
    cases hrun

/-! ### Steps of `add` -/

variable {as bs : List Adder} {item : BulkItem} {x y : Adding}

theorem move (h : Fits c s) (hadders : s.adders = as ++ ⟨item, x⟩ :: bs) (hnext : x.Next s y) :
    Fits c { s with adders := as ++ ⟨item, y⟩ :: bs } where
  reachable := h.reachable
  callers := h.callers
  added := by
    have hadded := h.added
    simpa [hadders, List.countP_append, List.countP_cons, hnext.isQueued_eq] using hadded
  accepted := by
    have haccepted := h.accepted
    rw [hadders, List.filter_append, List.filter_cons] at haccepted
    rw [List.filter_append, List.filter_cons]
    -- the item is in before if and only if it is in after
    cases hin : x.isIn <;> simpa [hin, hnext.isIn_eq] using haccepted
  ended := h.ended
  quiet := fun hne => by
    obtain ⟨hqueue, hhungUp⟩ := h.quiet hne
    have hact : Act c s _ := .move hadders hnext
    exact ⟨hqueue, hact.hungUp hhungUp⟩
  stands := h.stands.congr rfl rfl rfl fun hended => ⟨hended, rfl⟩

/-- The item of a call that holds a clone gets into the queue. -/
theorem enqueue (h : Fits c s) (hadders : s.adders = as ++ ⟨item, .encoded⟩ :: bs) :
    Fits c { s with adders := as ++ ⟨item, .queued⟩ :: bs, run := s.run.accept item } := by
  have hmem : (⟨item, .encoded⟩ : Adder) ∈ s.adders := by simp [hadders]
  have hrunning := h.not_allEnded hmem rfl
  refine {
    reachable := ?_
    callers := ?_
    added := ?_
    accepted := ?_
    ended := ?_
    quiet := fun hne => absurd (h.ended_eq_nil hmem rfl) hne
    stands := h.stands.congr rfl rfl rfl fun hended => absurd hended hrunning }
  · -- a caller comes and gets in at once
    have hcall : Step c s.run _ := .call item (h.run_phase_ne hrunning)
    have haccept : Step c { s.run with callers := s.run.callers ++ [item] } _ := .accept rfl
    have hreachable : Reachable c _ := (h.reachable.step hcall).step haccept
    simpa only [Run.accept, List.append_nil] using hreachable
  · exact h.callers
  · have hadded := h.added
    rw [hadders, List.countP_append, List.countP_cons_of_neg Bool.false_ne_true] at hadded
    rw [List.countP_append, List.countP_cons_of_pos rfl]
    simp only [Run.accept, hadded]
    omega
  · have haccepted := h.accepted
    simp only [hadders, List.filter_append, List.filter_cons, Adding.isIn, Bool.false_eq_true,
      if_false, if_true, List.map_append, List.map_cons] at haccepted ⊢
    exact (haccepted.append_right [item]).trans
      ((List.perm_append_singleton item _).trans List.perm_middle.symm)
  · exact h.ended

/-- The item of a call is counted, and no longer waits for that. -/
theorem count (h : Fits c s) (hadders : s.adders = as ++ ⟨item, .queued⟩ :: bs) :
    Fits c { s with adders := as ++ ⟨item, .counted⟩ :: bs, added := s.added + 1 } := by
  have hmem : (⟨item, .queued⟩ : Adder) ∈ s.adders := by simp [hadders]
  refine {
    reachable := h.reachable
    callers := h.callers
    added := ?_
    accepted := ?_
    ended := h.ended
    quiet := fun hne => absurd (h.ended_eq_nil hmem rfl) hne
    stands := h.stands.congr rfl rfl rfl fun hended => absurd hended (h.not_allEnded hmem rfl) }
  · have hadded := h.added
    rw [hadders, List.countP_append, List.countP_cons_of_pos rfl] at hadded
    rw [List.countP_append, List.countP_cons_of_neg Bool.false_ne_true, hadded]
    dsimp only
    omega
  · have haccepted := h.accepted
    simpa [hadders, List.filter_append, Adding.isIn] using haccepted

/-! ### Steps of workers -/

theorem work (h : Fits c s) (hworks : Works c s.run r)
    (hended : ∀ i ∈ s.ended, r.hands[i]? = s.run.hands[i]?) : Fits c { s with run := r } where
  reachable := h.reachable.step hworks.step
  callers := hworks.callers.trans h.callers
  added := by
    have hbefore := (Ledger.of_reachable h.reachable).accounts.added
    have hafter := (Ledger.of_reachable (h.reachable.step hworks.step)).accounts.added
    rw [hafter, hworks.accepted, ← hbefore, h.added]
  accepted := hworks.accepted ▸ h.accepted
  ended := fun i hi => by
    rw [hended i hi]
    exact h.ended i hi
  quiet := fun hne => by
    obtain ⟨hqueue, hhungUp⟩ := h.quiet hne
    exact ⟨hworks.queue_eq_nil h.callers hqueue, hhungUp⟩
  stands := by
    refine h.stands.congr rfl rfl hworks.phase fun hall => ⟨?_, ?_⟩
    · intro i hi
      exact hall i (hworks.step.length_hands ▸ hi)
    · rw [Scene.stats, (hworks.of_drained (h.drained hall)).2]
      rfl

theorem exit (h : Fits c s) {i : Nat} {w : Worker} (hhand : s.run.hands[i]? = some ⟨w, .idle⟩)
    (hitems : w.items = #[]) (hqueue : s.run.queue = []) (hhungUp : s.HungUp) :
    Fits c { s with ended := i :: s.ended } :=
  { h with
    ended := List.forall_mem_cons.mpr ⟨⟨w, hhand, hitems⟩, h.ended⟩
    quiet := fun _ => ⟨hqueue, hhungUp⟩
    stands := h.stands.congr rfl rfl rfl fun hall =>
      ⟨fun j hj => List.mem_cons_of_mem i (hall j hj), rfl⟩ }

/-! ### Steps of `close` -/

variable {ks ls : List Closing}

/-- Calls that do not close change nothing. -/
theorem passed (h : Fits c s) (closers : List Closing)
    (hclosers : closers.filter Closing.proceeds = s.closers.filter Closing.proceeds) :
    Fits c { s with closers := closers } :=
  { h with stands := hclosers ▸ h.stands.congr rfl rfl rfl fun hended => ⟨hended, rfl⟩ }

theorem begin (h : Fits c s) (hclosers : s.closers = ks ++ .called :: ls)
    (hphase : s.phase = .accepting) :
    Fits c { s with
      closers := ks ++ .begun :: ls
      phase := .flushing
      run := { s.run with phase := .flushing } } := by
  obtain ⟨hnone, hsender, hrun⟩ := h.stands.eq_nil hphase
  rw [hclosers, List.filter_append, List.filter_cons_of_neg Bool.false_ne_true,
    List.append_eq_nil_iff] at hnone
  have hclose : Step c s.run _ := .close hrun
  refine { h with reachable := h.reachable.step hclose, stands := ?_ }
  rw [List.filter_append, List.filter_cons_of_pos rfl, hnone.1, hnone.2]
  exact .begun rfl hsender rfl

theorem hangUp (h : Fits c s) (hclosers : s.closers = ks ++ .begun :: ls) :
    Fits c { s with closers := ks ++ .waiting :: ls, sender := false } := by
  obtain ⟨hstands, hone⟩ := Stands.of_split rfl (hclosers ▸ h.stands)
  cases hstands with
  | begun hphase _ hrun =>
    exact { h with
      quiet := fun hne => ⟨(h.quiet hne).1, rfl, (h.quiet hne).2.2⟩
      stands := hone .waiting rfl ▸ .waiting hphase rfl hrun }

theorem mark (h : Fits c s) (hclosers : s.closers = ks ++ .waiting :: ls) (hended : s.AllEnded) :
    Fits c { s with closers := ks ++ .marked :: ls, phase := .closed } := by
  obtain ⟨hstands, hone⟩ := Stands.of_split rfl (hclosers ▸ h.stands)
  cases hstands with
  | waiting _ hsender hrun =>
    exact { h with stands := hone .marked rfl ▸ .marked rfl hsender hrun hended }

theorem report (h : Fits c s) (hclosers : s.closers = ks ++ .marked :: ls) :
    Fits c { s with
      closers := ks ++ .reported s.stats s.run.tally.firstError :: ls
      run := { s.run with phase := .closed, tally.firstError := none } } := by
  obtain ⟨hstands, hone⟩ := Stands.of_split rfl (hclosers ▸ h.stands)
  cases hstands with
  | marked hphase hsender hrun hended =>
    have hclosed : Step c s.run _ := .closed hrun (h.drained hended)
    exact { h with
      reachable := h.reachable.step hclosed
      stands := hone (.reported _ _) rfl ▸ .reported _ hphase hsender rfl hended }

end Fits

/-- Every step keeps the invariant. -/
theorem Act.fits (hact : Act c s t) (h : Fits c s) : Fits c t := by
  cases hact with
  | add item =>
    refine { h with
      added := ?_
      accepted := ?_
      quiet := ?_
      stands := h.stands.congr rfl rfl rfl fun hended => ⟨hended, rfl⟩ }
    · simpa [List.countP_append, Adding.isQueued] using h.added
    · simpa [List.filter_append, Adding.isIn] using h.accepted
    · intro hne
      obtain ⟨hqueue, hhungUp⟩ := h.quiet hne
      have hact : Act c s _ := .add item
      exact ⟨hqueue, hact.hungUp hhungUp⟩
  | move hadders hnext => exact h.move hadders hnext
  | enqueue hadders _ _ => exact h.enqueue hadders
  | count hadders => exact h.count hadders
  | close => exact h.passed _ (by simp [List.filter_append, Closing.proceeds])
  | reject hclosers _ =>
    exact h.passed _ (by simp [hclosers, List.filter_append, Closing.proceeds])
  | begin hclosers hphase => exact h.begin hclosers hphase
  | hangUp hclosers => exact h.hangUp hclosers
  | mark hclosers hended => exact h.mark hclosers hended
  | report hclosers => exact h.report hclosers
  | work hworks hended => exact h.work hworks hended
  | exit hhand hitems hqueue hhungUp => exact h.exit hhand hitems hqueue hhungUp

/-- The invariant holds in every scene. -/
theorem Acts.fits (hacts : Acts c s t) (h : Fits c s) : Fits c t := by
  induction hacts with
  | refl => exact h
  | act _ hact ih => exact hact.fits ih

/-! ## When all workers have ended -/

/-- From one scene to a later one nothing was sent and nothing counted, and
calls of `add` that have returned since were rejected. -/
structure Unchanged (s t : Scene) : Prop where
  sent : t.run.sent = s.run.sent
  stats : t.stats = s.stats
  returned : ∀ (i : Nat) a result, t.adders[i]? = some a → a.stage = .returned result →
    s.adders[i]? = some a ∨ result = .error .bulkClosed

namespace Unchanged

theorem of_adders (hadders : t.adders = s.adders) (hsent : t.run.sent = s.run.sent)
    (hstats : t.stats = s.stats) : Unchanged s t :=
  ⟨hsent, hstats, fun _ _ _ ha _ => .inl (hadders ▸ ha)⟩

theorem trans (h : Unchanged s t) (h' : Unchanged t u) : Unchanged s u where
  sent := h'.sent.trans h.sent
  stats := h'.stats.trans h.stats
  returned := fun i a result ha hresult => by
    obtain ha' | herror := h'.returned i a result ha hresult
    · exact h.returned i a result ha' hresult
    · exact .inr herror

end Unchanged

/-- One entry of a list has changed. -/
theorem getElem?_move {α : Type} {as bs : List α} {a b : α} (i : Nat) :
    (as ++ b :: bs)[i]? = if i = as.length then some b else (as ++ a :: bs)[i]? := by
  split
  · simp [*]
  · rcases Nat.lt_or_gt_of_ne ‹i ≠ as.length› with hlt | hgt
    · rw [List.getElem?_append_left hlt, List.getElem?_append_left hlt]
    · obtain ⟨n, hn⟩ : ∃ n, i - as.length = n + 1 := ⟨i - as.length - 1, by omega⟩
      rw [List.getElem?_append_right (by omega), List.getElem?_append_right (by omega), hn,
        List.getElem?_cons_succ, List.getElem?_cons_succ]

/-- Once all workers have ended, whatever happens, nothing changes. -/
theorem Act.unchanged (hact : Act c s t) (h : Fits c s) (hended : s.AllEnded) :
    t.AllEnded ∧ Unchanged s t := by
  obtain ⟨-, hsender, hclones⟩ := h.quiet (h.ended_ne_nil hended)
  cases hact with
  | add item =>
    refine ⟨hended, rfl, rfl, fun i a result ha hresult => ?_⟩
    rw [List.getElem?_append] at ha
    split at ha
    · exact .inl ha
    · -- the new call has not returned
      obtain rfl : a = ⟨item, .called⟩ := by simpa using (List.mem_of_getElem? ha)
      cases hresult
  | @move as bs item x y hadders hnext =>
    refine ⟨hended, rfl, rfl, fun i a result ha hresult => ?_⟩
    have hx : x.holds = false := hclones ⟨item, x⟩ (by simp [hadders])
    rw [getElem?_move (a := ⟨item, x⟩)] at ha
    split at ha
    · obtain rfl := Option.some.inj ha
      -- only a call that holds a clone can return without an error
      cases hnext with
      | refuse | miss | bounce => exact .inr (Adding.returned.inj hresult).symm
      | check | clone | encode | giveUp => cases hresult
      | finish => cases hx
    · exact .inl (hadders ▸ ha)
  | enqueue _ _ hrunning => exact absurd hended hrunning
  | @count as bs item hadders =>
    have hmem : (⟨item, .queued⟩ : Adder) ∈ s.adders := by simp [hadders]
    exact absurd hended (h.not_allEnded hmem rfl)
  | close | reject | begin | hangUp | mark | report => exact ⟨hended, .of_adders rfl rfl rfl⟩
  | work hworks _ =>
    obtain ⟨hsent, htally⟩ := hworks.of_drained (h.drained hended)
    refine ⟨?_, .of_adders rfl hsent ?_⟩
    · intro i hi
      exact hended i (hworks.step.length_hands ▸ hi)
    · rw [Scene.stats, htally]
      rfl
  | exit =>
    refine ⟨?_, .of_adders rfl rfl rfl⟩
    intro i hi
    exact List.mem_cons_of_mem _ (hended i hi)

theorem Acts.unchanged (hacts : Acts c s t) (h : Fits c s) (hended : s.AllEnded) :
    t.AllEnded ∧ Unchanged s t := by
  induction hacts with
  | refl => exact ⟨hended, .of_adders rfl rfl rfl⟩
  | act hbefore hact ih =>
    obtain ⟨hended', hunchanged⟩ := ih
    obtain ⟨hended'', hunchanged'⟩ := hact.unchanged (hbefore.fits h) hended'
    exact ⟨hended'', hunchanged.trans hunchanged'⟩

/-- Each call of `add` is over, or its next step rejects it. -/
def Refusing (c : BulkConfig) (s : Scene) : Prop :=
  ∀ (i : Nat) a, s.adders[i]? = some a → (∃ result, a.stage = .returned result) ∨ a.stage = .left ∨
    ∃ t, Act c s t ∧ t.adders[i]? = some { a with stage := .returned (.error .bulkClosed) } ∧
      t.run = s.run ∧ t.stats = s.stats

theorem Fits.refusing (h : Fits c s) (hended : s.AllEnded) : Refusing c s := by
  obtain ⟨-, hsender, hclones⟩ := h.quiet (h.ended_ne_nil hended)
  have hphase : s.phase ≠ .accepting := fun hphase => by
    simp [(h.stands.eq_nil hphase).2.1] at hsender
  intro i a ha
  obtain ⟨item, stage⟩ := a
  have hholds : stage.holds = false := hclones _ (List.mem_of_getElem? ha)
  obtain ⟨hi, ha⟩ := List.getElem?_eq_some_iff.mp ha
  have hadders : s.adders = s.adders.take i ++ ⟨item, stage⟩ :: s.adders.drop (i + 1) := by
    rw [← ha, ← List.drop_eq_getElem_cons hi, List.take_append_drop]
  have rejected : (s.adders.take i ++ ⟨item, .returned (.error .bulkClosed)⟩ ::
      s.adders.drop (i + 1))[i]? = some ⟨item, .returned (.error .bulkClosed)⟩ := by
    rw [List.getElem?_append_right (by simp), List.length_take_of_le hi.le, Nat.sub_self]
    rfl
  cases stage with
  | called => exact .inr (.inr ⟨_, .move hadders (.refuse hphase), rejected, rfl, rfl⟩)
  | cleared => exact .inr (.inr ⟨_, .move hadders (.miss hsender), rejected, rfl, rfl⟩)
  | cloned | encoded | queued | counted => cases hholds
  | left => exact .inr (.inl rfl)
  | returned result => exact .inl ⟨result, rfl⟩

/-! ## When the call that closes has returned -/

theorem Adding.isIn_eq_isDone {x : Adding} (h : x.holds = false) : x.isIn = x.isDone := by
  cases x with
  | queued | counted => cases h
  | called | cleared | cloned | encoded | left => rfl
  | returned result => cases result <;> rfl

theorem Adding.isQueued_eq_false {x : Adding} (h : x.holds = false) : x.isQueued = false := by
  cases x with
  | queued => cases h
  | called | cleared | cloned | encoded | counted | left | returned => rfl

/-- Nothing is on its way, and what was counted adds up. -/
structure Sealed (s : Scene) (snapshot : BulkStats) : Prop where
  phase : s.phase = .closed
  queue : s.run.queue = []
  workers : ∀ h ∈ s.run.hands, h.doing = .idle ∧ h.worker.items = #[]
  stats : s.stats = snapshot
  added : snapshot.added = snapshot.flushed + snapshot.failed
  landed : (s.run.landed.map Prod.fst).Perm
    ((s.adders.filter fun a => a.stage.isDone).map Adder.item)
  counts : snapshot.Counts s.run.landed
  balanced : Balanced s.run

/-- The call that closes returns when all workers have ended. -/
theorem Fits.sealed (h : Fits c s) {snapshot : BulkStats} {firstError : Option Error}
    (hreported : .reported snapshot firstError ∈ s.closers) :
    s.AllEnded ∧ Sealed s snapshot := by
  obtain ⟨ks, ls, hclosers⟩ := List.append_of_mem hreported
  obtain ⟨hstands, -⟩ := Stands.of_split rfl (hclosers ▸ h.stands)
  cases hstands with
  | reported _ hphase hsender hrun hended =>
    have hdrained := h.drained hended
    have hbalanced : Balanced s.run := (Ledger.of_reachable h.reachable).balanced hdrained
    have hclones := (h.quiet (h.ended_ne_nil hended)).2.2
    -- no item is queued but not counted
    have hqueued : (s.adders.countP fun a => a.stage.isQueued) = 0 := by
      rw [List.countP_eq_zero]
      intro a ha
      rw [Adding.isQueued_eq_false (hclones a ha)]
      exact Bool.false_ne_true
    have hadded : s.added = s.run.tally.stats.added := by
      rw [h.added, hqueued, Nat.add_zero]
    have hstats : s.stats = s.run.tally.stats := by
      rw [Scene.stats, hadded]
    refine ⟨hended, hphase, hdrained.queue, hdrained.hands, rfl, ?_, ?_, ?_, hbalanced⟩
    · rw [hstats]
      exact hbalanced.added
    · have hdone : (s.adders.filter fun a => a.stage.isIn) =
          s.adders.filter fun a => a.stage.isDone :=
        List.filter_congr fun a ha => Adding.isIn_eq_isDone (hclones a ha)
      exact hdone ▸ hbalanced.landed.trans h.accepted
    · rw [hstats]
      exact hbalanced.counts

/-- One call closes. All others that have returned were refused, and those that
come after it are refused by their next step. -/
structure OneCloses (c : BulkConfig) (s : Scene) : Prop where
  count : (s.closers.filter Closing.proceeds).length ≤ 1
  refused : ∀ k ∈ s.closers, ∀ result, k.result? = some result →
    k.proceeds = true ∨ result = .error .bulkClosed
  late : ∀ k ∈ s.closers, k.proceeds = true → s.phase ≠ .accepting ∧
    ∀ ks ls, s.closers = ks ++ .called :: ls → Act c s { s with closers := ks ++ .refused :: ls }

theorem Fits.oneCloses (h : Fits c s) : OneCloses c s where
  count := h.stands.length_le_one
  late := fun k hk hproceeds => by
    have hphase : s.phase ≠ .accepting := fun hphase => by
      have hmem := List.mem_filter.mpr ⟨hk, hproceeds⟩
      rw [(h.stands.eq_nil hphase).1] at hmem
      cases hmem
    exact ⟨hphase, fun ks ls hclosers => .reject hclosers hphase⟩
  refused := fun k _ result hresult => by
    cases k with
    | refused => exact .inr (Option.some.inj hresult).symm
    | reported => exact .inl rfl
    | called | begun | waiting | marked => cases hresult

/-- However many calls of `add` and `close` race, and however they and the
workers take turns: one call closes and all others are refused. When it has
returned the scene is sealed, and from then on nothing is sent or counted and
every `add` is rejected. -/
theorem close_barrier (c : BulkConfig) (s : Scene) (h : Acts c (Scene.start c) s) :
    OneCloses c s ∧ ∀ snapshot firstError, .reported snapshot firstError ∈ s.closers →
      Sealed s snapshot ∧ ∀ t, Acts c s t → Unchanged s t ∧ Refusing c t := by
  have hfits := h.fits (.start c)
  refine ⟨hfits.oneCloses, fun snapshot firstError hreported => ?_⟩
  obtain ⟨hended, hsealed⟩ := hfits.sealed hreported
  refine ⟨hsealed, fun t hacts => ?_⟩
  obtain ⟨hended', hunchanged⟩ := hacts.unchanged hfits hended
  exact ⟨hunchanged, (hacts.fits hfits).refusing hended'⟩

/-- A call of `add` sees the indexer accept, another call closes, and the item
still gets in and is counted. -/
theorem close_barrier_late_item : ∃ s snapshot firstError, Acts {} (Scene.start {}) s ∧
    .reported snapshot firstError ∈ s.closers ∧ Sealed s snapshot ∧
    snapshot.added = 1 ∧ snapshot.failed = 1 := by
  let item : BulkItem := .delete "hero" "1"
  have hhands : (Run.start {}).hands = [] ++ ⟨{ nextTick := 2000 }, .idle⟩ :: [] := rfl
  have waiting : Acts {} (Scene.start {}) _ :=
    (((((Acts.refl.act (.add item)).act (.move rfl (.check rfl))).act
      (.move rfl (.clone rfl))).act .close).act (.begin rfl rfl)).act (.hangUp rfl)
  have queued := (waiting.act (.move rfl .encode)).act (.enqueue rfl (by decide) (by decide))
  -- the worker takes the item while its call still holds a clone
  have held := queued.act (.work ⟨.hold rfl hhands (by decide +kernel), rfl, rfl, rfl⟩ nofun)
  have done := (held.act (.count rfl)).act (.move rfl .finish)
  have sent := done.act (.work ⟨.flush rfl (by decide), rfl, rfl, rfl⟩ nofun)
  have answered := sent.act
    (.work ⟨.answer rfl (.error (.transport "refused")), rfl, rfl, rfl⟩ nofun)
  have settled := (answered.act (.work ⟨.settle rfl, rfl, rfl, rfl⟩ nofun)).act
    (.work ⟨.settled rfl, rfl, rfl, rfl⟩ nofun)
  have ended := settled.act (@Act.exit _ _ 0 _ rfl rfl rfl (by decide))
  have closed := (ended.act (.mark rfl (by decide))).act (.report rfl)
  obtain ⟨hsealed, -⟩ := (close_barrier {} _ closed).2 _ _ (List.mem_append_right _ (.head _))
  exact ⟨_, _, _, closed, List.mem_append_right _ (.head _), hsealed, rfl, rfl⟩

end SearchStore.Bulk
