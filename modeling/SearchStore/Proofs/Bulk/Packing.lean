import Mathlib.Algebra.Order.Floor.Div
import SearchStore.Proofs.Bulk.Alone
import SearchStore.Proofs.Bulk.Barrier
import SearchStore.Proofs.Bulk.Thresholds

/-! # How many requests there are

Without ticks a worker sends before it holds enough only when the queue has ended, and then nothing
comes after. So the requests of a single worker have just as many items as the threshold says, all
but the last one (`Packed`), and their number follows from the number of items that were accepted:
`requests_within_thresholds`.
-/

namespace SearchStore.Bulk

variable {c : BulkConfig} {r r' : Run} {s t : Scene} {b : Batch}

/-! ## The backlog of a single worker -/

/-- The items that are accepted and not sent yet. -/
def Run.backlog (r : Run) : List BulkItem := r.hands.flatMap Hand.unsent ++ r.queue

/-- What is sent is the front of the backlog. -/
theorem Sends.backlog_eq (h : Sends c r r' b) (halone : r.hands.length = 1) :
    r.backlog = b.items ++ r'.backlog ∧ r'.accepted = r.accepted := by
  cases h with
  | fill hqueue hhands hfull =>
    obtain ⟨rfl, rfl⟩ := nobody_beside halone hhands
    simp [Run.backlog, Run.send, hhands, hqueue, Hand.unsent, Worker.push]
  | flush hhands hitems =>
    obtain ⟨rfl, rfl⟩ := nobody_beside halone hhands
    simp [Run.backlog, Run.send, hhands, Hand.unsent]

/-- Once the queue is empty, what is sent early is the whole backlog. -/
theorem Sends.backlog_eq_nil (h : Sends c r r' b) (halone : r.hands.length = 1)
    (hearly : b.full = false) (hqueue : r.queue = []) : r'.backlog = [] := by
  cases h with
  | fill => cases hearly
  | flush hhands hitems =>
    obtain ⟨rfl, rfl⟩ := nobody_beside halone hhands
    simp [Run.backlog, Run.send, hqueue, Hand.unsent]

/-- Where nothing is sent the backlog grows by what is accepted. -/
theorem Step.backlog_eq (h : Step c r r') (halone : r.hands.length = 1)
    (hsent : r'.sent = r.sent) :
    ∃ items, r'.accepted = r.accepted ++ items ∧ r'.backlog = r.backlog ++ items := by
  cases h with
  | call | giveUp | pass | close | closed => exact ⟨[], by simp [Run.backlog]⟩
  | @accept as bs item _ => exact ⟨[item], by simp [Run.backlog]⟩
  | hold hqueue hhands _ =>
    obtain ⟨rfl, rfl⟩ := nobody_beside halone hhands
    exact ⟨[], by simp [Run.backlog, hhands, hqueue, Hand.unsent, Worker.push]⟩
  | fill | flush => simp [Run.send] at hsent
  | schedule hhands | settled hhands => exact ⟨[], by simp [Run.backlog, hhands, Hand.unsent]⟩
  | answer hhands => exact ⟨[], by simp [Run.backlog, Run.hear, hhands, Hand.unsent]⟩
  | settle hhands => exact ⟨[], by simp [Run.backlog, Run.settle, hhands, Hand.unsent]⟩

/-- With nothing left to do there is no backlog. -/
theorem Run.Drained.backlog_eq_nil (h : r.Drained) : r.backlog = [] := by
  rw [Run.backlog, h.unsent_eq_nil, h.queue, List.append_nil]

/-! ## Scenes without ticks -/

/-- The next scene comes without a tick: a worker that sends before it holds enough does so because
the queue has ended. -/
structure Untimed (c : BulkConfig) (s t : Scene) : Prop where
  act : Act c s t
  ended : ∀ b, Sends c s.run t.run b → b.full = false → s.HungUp ∧ s.run.queue = []

/-- What can come of one scene without ticks. -/
inductive UntimedActs (c : BulkConfig) (s : Scene) : Scene → Prop
  | refl : UntimedActs c s s
  | act {t u : Scene} (h : UntimedActs c s t) (hact : Untimed c t u) : UntimedActs c s u

theorem UntimedActs.acts (h : UntimedActs c s t) : Acts c s t := by
  induction h with
  | refl => exact .refl
  | act _ hact ih => exact ih.act hact.act

/-- It takes no tick to send nothing. -/
theorem Untimed.of_sent_eq (hact : Act c s t) (hsent : t.run.sent = s.run.sent) :
    Untimed c s t where
  act := hact
  ended := fun _ hsends _ => absurd hsent hsends.sent_ne

/-- An act sends a batch, or accepts some items, which happens only while somebody can send them to
the queue. -/
theorem Act.run_cases (h : Act c s t) (halone : s.run.hands.length = 1) :
    (∃ b, Sends c s.run t.run b) ∨ t.run.sent = s.run.sent ∧
      ∃ items, t.run.accepted = s.run.accepted ++ items ∧
        t.run.backlog = s.run.backlog ++ items ∧ (s.HungUp → items = []) := by
  have hidle {r : Run} (hsent : r.sent = s.run.sent) (haccepted : r.accepted = s.run.accepted)
      (hbacklog : r.backlog = s.run.backlog) :
      r.sent = s.run.sent ∧ ∃ items, r.accepted = s.run.accepted ++ items ∧
        r.backlog = s.run.backlog ++ items ∧ (s.HungUp → items = []) :=
    ⟨hsent, [], by simp [haccepted], by simp [hbacklog], fun _ => rfl⟩
  cases h with
  | @enqueue as bs item hadders _ _ =>
    refine .inr ⟨rfl, [item], rfl, by simp [Run.backlog, Run.accept], fun hhungUp => ?_⟩
    have hholds := hhungUp.2 ⟨item, .encoded⟩ (by simp [hadders])
    cases hholds
  | work hworks _ =>
    rcases hworks.step.quiet_or_sends with hsent | hsends
    · obtain ⟨items, haccepted, hbacklog⟩ := hworks.step.backlog_eq halone hsent
      obtain rfl : items = [] := by simpa [hworks.accepted] using haccepted
      exact .inr (hidle hsent hworks.accepted (by simpa using hbacklog))
    · exact .inl hsends
  | add | move | count | close | reject | begin | hangUp | mark | report | exit =>
    exact .inr (hidle rfl rfl rfl)

/-! ## Packed requests -/

/-- All requests but the last were sent because they were enough. The last one may have been sent
early, but only if nobody can send to the queue any more and nothing is left. -/
structure Packed (c : BulkConfig) (s : Scene) (fulls : List Batch) (last : Option Batch) :
    Prop where
  sent : s.run.sent = (fulls ++ last.toList).map Batch.request
  order : s.run.accepted = (fulls ++ last.toList).flatMap Batch.items ++ s.run.backlog
  cut : ∀ b ∈ fulls ++ last.toList, b.Cut c
  full : ∀ b ∈ fulls, b.full = true
  last : ∀ b ∈ last, b.full = false ∧ s.HungUp ∧ s.run.backlog = []

namespace Packed

variable {fulls : List Batch} {last : Option Batch}

theorem start (c : BulkConfig) : Packed c (Scene.start c) [] none where
  sent := rfl
  order := by simp [Scene.start, Run.backlog, Run.start, Indexer.start, Hand.unsent]
  cut := nofun
  full := nofun
  last := nofun

/-- What is sent comes after all other requests. -/
theorem send (h : Packed c s fulls last) (hreachable : Reachable c s.run)
    (halone : s.run.hands.length = 1) (hact : Untimed c s t) (hsends : Sends c s.run t.run b) :
    ∃ fulls last, Packed c t fulls last := by
  obtain ⟨hbacklog, haccepted⟩ := hsends.backlog_eq halone
  have hcut := hsends.cut hreachable
  -- after a request that was sent early there is nothing to send
  obtain rfl : last = none := by
    cases last with
    | none => rfl
    | some b' =>
      have hnil := (h.last b' rfl).2.2
      rw [hbacklog, List.append_eq_nil_iff] at hnil
      exact absurd hnil.1 hcut.nonempty
  have hsent : t.run.sent = (fulls ++ [b]).map Batch.request := by
    rw [hsends.sent_eq hreachable, h.sent]
    simp
  have horder : t.run.accepted = (fulls ++ [b]).flatMap Batch.items ++ t.run.backlog := by
    rw [haccepted, h.order, hbacklog]
    simp
  have hcuts : ∀ b' ∈ fulls ++ [b], b'.Cut c :=
    List.forall_mem_append.mpr
      ⟨fun b' hb' => h.cut b' (by simp [hb']), List.forall_mem_singleton.mpr hcut⟩
  cases hfull : b.full with
  | false =>
    obtain ⟨hhungUp, hqueue⟩ := hact.ended b hsends hfull
    refine ⟨fulls, some b, hsent, horder, hcuts, h.full, ?_⟩
    rintro b' ⟨⟩
    exact ⟨hfull, hact.act.hungUp hhungUp, hsends.backlog_eq_nil halone hfull hqueue⟩
  | true =>
    refine ⟨fulls ++ [b], none, by simpa using hsent, by simpa using horder, by simpa using hcuts,
      ?_, nofun⟩
    exact List.forall_mem_append.mpr ⟨h.full, List.forall_mem_singleton.mpr hfull⟩

theorem step (h : Packed c s fulls last) (hreachable : Reachable c s.run)
    (halone : s.run.hands.length = 1) (hact : Untimed c s t) :
    ∃ fulls last, Packed c t fulls last := by
  rcases hact.act.run_cases halone with ⟨b, hsends⟩ | ⟨hsent, items, haccepted, hbacklog, hnone⟩
  · exact h.send hreachable halone hact hsends
  · -- nothing is accepted after the last request
    refine ⟨fulls, last, hsent.trans h.sent, ?_, h.cut, h.full, fun b hb => ?_⟩
    · rw [haccepted, h.order, hbacklog, List.append_assoc]
    · obtain ⟨hearly, hhungUp, hnil⟩ := h.last b hb
      refine ⟨hearly, hact.act.hungUp hhungUp, ?_⟩
      rw [hbacklog, hnil, hnone hhungUp, List.append_nil]

/-- The requests of a single worker are packed in every scene without ticks. -/
theorem of_acts (hworkers : c.workers ≤ 1) (h : UntimedActs c (Scene.start c) s) :
    ∃ fulls last, Packed c s fulls last := by
  induction h with
  | refl => exact ⟨[], none, start c⟩
  | act hacts hact ih =>
    obtain ⟨fulls, last, hpacked⟩ := ih
    have hreachable := (hacts.acts.fits (.start c)).reachable
    refine hpacked.step hreachable ?_ hact
    rw [hreachable.length_hands]
    omega

end Packed

/-! ## Numbers of requests -/

/-- The number of requests for `n` items, `k` in each. Without a `k` all items go into one. -/
def requestsFor (k n : Nat) : Nat := if 0 < k then n ⌈/⌉ k else min n 1

theorem requestsFor_eq {k m n : Nat} (hnone : k = 0 → m = 0) (hless : 0 < k → n < k) :
    requestsFor k (m * k + n) = m + min n 1 := by
  rw [requestsFor]
  split
  · rename_i hpos
    have hn := hless hpos
    rw [Nat.ceilDiv_eq_add_pred_div]
    rcases n.eq_zero_or_pos with rfl | hrest
    · exact Nat.div_eq_of_lt_le (by simp; omega) (by rw [Nat.zero_min, Nat.succ_mul]; omega)
    · rw [Nat.min_eq_right hrest]
      exact Nat.div_eq_of_lt_le (by rw [Nat.succ_mul]; omega)
        (by rw [Nat.succ_mul, Nat.succ_mul]; omega)
  · obtain rfl : k = 0 := by omega
    rw [hnone rfl, Nat.mul_zero, Nat.zero_add, Nat.zero_add]

/-- The text of a request does not reach the threshold for bytes. -/
def Below (c : BulkConfig) (q : Request) : Prop := (textOf q).utf8ByteSize < c.flushBytes

instance (q : Request) : Decidable (Below c q) := inferInstanceAs (Decidable (_ < _))

/-- If it was not for its bytes, a batch was sent because of the number of its items. -/
theorem Batch.Cut.length_eq (h : b.Cut c) (hfull : b.full = true) (hbelow : Below c b.request) :
    0 < c.flushItems ∧ b.items.length = c.flushItems :=
  (h.enough hfull).resolve_left (Nat.not_le_of_lt hbelow)

/-- When nothing is left, there are just as many requests as the accepted items need. -/
theorem Packed.length_sent {fulls : List Batch} {last : Option Batch} (h : Packed c s fulls last)
    (hbacklog : s.run.backlog = []) (hbelow : ∀ q ∈ s.run.sent, Below c q) :
    s.run.sent.length = requestsFor c.flushItems s.run.accepted.length := by
  have hfull : ∀ b ∈ fulls, 0 < c.flushItems ∧ b.items.length = c.flushItems := by
    intro b hb
    refine (h.cut b (by simp [hb])).length_eq (h.full b hb) (hbelow _ ?_)
    rw [h.sent]
    exact List.mem_map_of_mem (List.mem_append_left _ hb)
  have hfulls : (fulls.flatMap Batch.items).length = fulls.length * c.flushItems := by
    rw [List.length_flatMap, List.sum_eq_card_nsmul _ c.flushItems
      (List.forall_mem_map.mpr fun b hb => (hfull b hb).2), List.length_map, smul_eq_mul]
  have hnone : c.flushItems = 0 → fulls.length = 0 := fun hzero => by
    rw [List.length_eq_zero_iff, List.eq_nil_iff_forall_not_mem]
    intro b hb
    exact absurd (hfull b hb).1 (by omega)
  -- the last request counts as one, with fewer items than a full one
  have hlast : (0 < c.flushItems → (last.toList.flatMap Batch.items).length < c.flushItems) ∧
      min (last.toList.flatMap Batch.items).length 1 = last.toList.length := by
    cases last with
    | none => exact ⟨id, rfl⟩
    | some b =>
      have hcut := h.cut b (by simp)
      have hpos := List.length_pos_of_ne_nil hcut.nonempty
      simpa using ⟨(hcut.early (h.last b rfl).1).2, hpos⟩
  rw [h.sent, h.order, hbacklog, List.append_nil, List.length_map, List.flatMap_append,
    List.length_append, List.length_append, hfulls, requestsFor_eq hnone hlast.1, hlast.2]

/-! ## Calls from one place -/

/-- An indexer with one worker that has sent so many requests, each because of the number of its
items. -/
structure Filled (c : BulkConfig) (ix : Indexer) (w : Worker) (n : Nat) : Prop where
  config : ix.config = c
  workers : ix.workers = [w]
  none : c.flushItems = 0 → n = 0
  less : 0 < c.flushItems → w.items.size < c.flushItems
  added : ix.tally.stats.added = n * c.flushItems + w.items.size + ix.queue.length

namespace Filled

variable {σ : Type} {server : Session.Server σ} {ix : Indexer} {w : Worker} {n : Nat}

theorem start (hworkers : c.workers ≤ 1) :
    Filled c (Indexer.start c) { nextTick := Worker.interval c } 0 where
  config := rfl
  workers := by rw [Indexer.start, Nat.max_eq_right hworkers]; rfl
  none := fun _ => rfl
  less := id
  added := (Nat.zero_mul _).symm

theorem add (h : Filled c ix w n) (item : BulkItem) :
    Filled c { ix with
      queue := ix.queue ++ [item]
      tally.stats.added := ix.tally.stats.added + 1 } w n :=
  { h with added := by simp [h.added, Nat.add_assoc] }

/-- A single worker takes the next item. -/
theorem run_receive {item : BulkItem} {rest : List BulkItem} (h : Filled c ix w n)
    (hqueue : ix.queue = item :: rest) (x : σ) :
    let out := Session.run server (w.receive c item ix.tally) x
    Session.run server (ix.receive 0) x =
      ({ ix with queue := rest, workers := [out.1.1], tally := out.1.2 }, out.2) := by
  simp only [Indexer.receive, hqueue, h.workers, h.config, Indexer.atWorker, Session.run_bind,
    Session.run_pure]
  simp [Session.Trace.append_def]

/-- The worker takes the next item, and sends if it now has as many as the threshold says. -/
theorem receive (h : Filled c ix w n) (x : σ) :
    let out := Session.run server (ix.receive 0) x
    (∀ q ∈ out.2.1.requests, Below c q) →
      ∃ w', Filled c out.1 w' (n + out.2.1.requests.length) := by
  intro out hbelow
  cases hqueue : ix.queue with
  | nil =>
    have hout : out = (ix, {}, x) := by simp [out, Indexer.receive, hqueue, Session.run]
    rw [hout]
    exact ⟨w, h⟩
  | cons item rest =>
    have hadded := h.added
    rw [hqueue, List.length_cons] at hadded
    have hsize : (w.push item).items.size = w.items.size + 1 := by simp [Worker.push]
    have htally := Worker.added_receive server c item w ix.tally x
    simp only [out, h.run_receive hqueue] at hbelow ⊢
    rw [Worker.receive] at htally hbelow ⊢
    by_cases hfull : (w.push item).isFull c
    · obtain ⟨hworker, hrequests, -, -⟩ :=
        Worker.run_flush server (w.push item) ix.tally x (by simp [Worker.push])
      rw [if_pos hfull] at htally hbelow ⊢
      rw [hrequests] at hbelow ⊢
      -- the bytes are not enough, so the items are
      obtain ⟨hpos, henough⟩ := (isFull_eq_true_iff.mp hfull).resolve_left
        (Nat.not_le_of_lt (hbelow _ (.head _)))
      have hless := h.less hpos
      refine ⟨_, h.config, rfl, fun hzero => absurd hpos (by omega), fun _ => ?_, ?_⟩
      · rw [hworker]
        exact hpos
      · rw [htally, hadded, hworker]
        simp [Nat.add_mul]
        omega
    · rw [if_neg hfull] at htally hbelow ⊢
      obtain ⟨-, hless⟩ := isFull_eq_false_iff.mp (Bool.not_eq_true _ ▸ hfull)
      refine ⟨_, h.config, rfl, h.none, hless, ?_⟩
      simp only [Session.run, List.length_nil, Nat.add_zero, hadded, hsize]
      omega

theorem drainSome (h : Filled c ix w n) (m : Nat) (x : σ) :
    let out := Session.run server (Indexer.drainSome m ix) x
    (∀ q ∈ out.2.1.requests, Below c q) →
      ∃ w', Filled c out.1 w' (n + out.2.1.requests.length) := by
  induction m generalizing ix w n x with
  | zero => exact fun _ => ⟨w, h⟩
  | succ m ih =>
    simp only [Indexer.drainSome, Session.run_bind, Session.Trace.requests_append,
      List.forall_mem_append, List.length_append]
    rintro ⟨hfirst, hrest⟩
    obtain ⟨w', h'⟩ := h.receive x hfirst
    rw [← Nat.add_assoc]
    exact ih h' _ hrest

/-- With an empty queue, what is left are fewer items than a request needs. -/
theorem finish (h : Filled c ix w n) (hqueue : ix.queue = []) (x : σ) :
    let out := Session.run server (finish ix) x
    n + out.2.1.requests.length = requestsFor c.flushItems ix.tally.stats.added ∧
      out.1.tally.stats.added = ix.tally.stats.added ∧ out.1.phase = .closed ∧
      out.1.queue = [] := by
  intro out
  have hadded := h.added
  rw [hqueue, List.length_nil, Nat.add_zero] at hadded
  have htally := Worker.added_flush server w ix.tally x
  -- there is one request more if items are left, and none otherwise
  have hrequests : (Session.run server (w.flush ix.tally) x).2.1.requests.length =
      min w.items.size 1 := by
    by_cases hitems : w.items = #[]
    · rw [Worker.run_flush_nil server w ix.tally x hitems, hitems]
      rfl
    · rw [(Worker.run_flush server w ix.tally x hitems).2.1, Nat.min_eq_right]
      · rfl
      · exact Array.size_pos_iff.mpr hitems
  rw [hadded, requestsFor_eq h.none h.less, ← hrequests, ← hadded]
  simp only [out, Bulk.finish, h.workers, Indexer.eachWorker, Session.run_bind, Session.run_pure]
  exact ⟨by simp [Session.Trace.append_def, Session.run], htally, trivial, hqueue⟩

theorem close (h : Filled c ix w n) (hphase : ix.phase = .accepting) (x : σ) :
    let out := Session.run server (do return (← ix.close).2) x
    (∀ q ∈ out.2.1.requests, Below c q) →
      n + out.2.1.requests.length = requestsFor c.flushItems out.1.tally.stats.added ∧
        out.1.phase = .closed ∧ out.1.queue = [] := by
  have hflushing : Filled c { ix with phase := .flushing } w n := { h with }
  simp only [close_eq hphase, Indexer.drain, Session.run_bind, Session.Trace.requests_append,
    List.forall_mem_append, List.length_append]
  rintro ⟨hfirst, -⟩
  obtain ⟨w', h'⟩ := hflushing.drainSome ix.queue.length x hfirst
  obtain ⟨hqueue, -⟩ :=
    run_drainSome_frame server { ix with phase := .flushing } ix.queue.length x
  rw [List.drop_length] at hqueue
  obtain ⟨hcount, hadded, hclosed, hqueue'⟩ := h'.finish hqueue
    (Session.run server (Indexer.drainSome ix.queue.length { ix with phase := .flushing }) x).2.2
  exact ⟨by rw [← Nat.add_assoc, hcount, hadded], hclosed, hqueue'⟩

/-- Calls after the indexer is closed do nothing. -/
theorem perform_closed (hphase : ix.phase = .closed) (hqueue : ix.queue = []) (calls : List Call)
    (hticks : ∀ ms, .advance ms ∉ calls) : Bulk.perform calls ix = pure ix := by
  induction calls with
  | nil => rfl
  | cons call rest ih =>
    have hcall : call.perform ix = pure ix := by
      cases call with
      | add item => simp [Call.perform, Indexer.add, hphase]
      | receive i =>
        rw [Call.perform, Indexer.receive, hqueue]
        exact ite_self _
      | advance ms => exact absurd (.head rest) (hticks ms)
      | close =>
        rw [Call.perform, Indexer.close, hphase]
        rfl
    rw [Bulk.perform, hcall]
    exact ih fun ms hms => hticks ms (.tail _ hms)

/-- Without ticks a call either leaves the worker with less than it needs, or closes the indexer. -/
theorem call (h : Filled c ix w n) (hphase : ix.phase = .accepting) {call : Call}
    (htick : ∀ ms, .advance ms ≠ call) (x : σ) :
    let out := Session.run server (call.perform ix) x
    (∀ q ∈ out.2.1.requests, Below c q) →
      (out.1.phase = .accepting ∧ ∃ w', Filled c out.1 w' (n + out.2.1.requests.length)) ∨
        n + out.2.1.requests.length = requestsFor c.flushItems out.1.tally.stats.added ∧
          out.1.phase = .closed ∧ out.1.queue = [] := by
  intro out hbelow
  cases call with
  | add item =>
    have hout : out = ({ ix with
        queue := ix.queue ++ [item]
        tally.stats.added := ix.tally.stats.added + 1 }, {}, x) := by
      simp [out, Call.perform, Indexer.add, hphase, Session.run_pure]
    rw [hout]
    exact .inl ⟨hphase, w, h.add item⟩
  | receive i =>
    by_cases hi : i < ix.workers.length
    · -- there is no other worker
      obtain rfl : i = 0 := by simpa [h.workers] using hi
      have hframe := (run_receive_frame server ix 0 x).2
      simp only [out, Call.perform, if_pos hi] at hbelow ⊢
      exact .inl ⟨hframe.trans hphase, h.receive x hbelow⟩
    · simp only [out, Call.perform, if_neg hi, Session.run_pure]
      exact .inl ⟨hphase, w, h⟩
  | advance ms => exact absurd rfl (htick ms)
  | close => exact .inr (h.close hphase x hbelow)

theorem perform (h : Filled c ix w n) (hphase : ix.phase = .accepting) (calls : List Call)
    (hticks : ∀ ms, .advance ms ∉ calls) (x : σ) :
    let out := Session.run server (Bulk.perform calls ix) x
    out.1.phase = .closed → (∀ q ∈ out.2.1.requests, Below c q) →
      n + out.2.1.requests.length = requestsFor c.flushItems out.1.tally.stats.added := by
  induction calls generalizing ix w n x with
  | nil =>
    intro out hclosed
    exact absurd (hphase.symm.trans hclosed) nofun
  | cons call rest ih =>
    have hrest : ∀ ms, .advance ms ∉ rest := fun ms hms => hticks ms (.tail _ hms)
    simp only [Bulk.perform, Session.run_bind, Session.Trace.requests_append,
      List.forall_mem_append, List.length_append]
    rintro hclosed ⟨hfirst, hbelow⟩
    rcases h.call hphase (fun ms htick => hticks ms (htick ▸ .head rest)) x hfirst with
      ⟨hphase', w', h'⟩ | ⟨hcount, hphase', hqueue⟩
    · rw [← Nat.add_assoc]
      exact ih h' hphase' hrest _ hclosed hbelow
    · rw [perform_closed hphase' hqueue rest hrest]
      exact hcount

end Filled

/-! ## All requests -/

/-- Each request carries a batch that is cut at the thresholds, whatever callers, workers and the
clock do, and also in calls from one place, where taking an item makes a worker send only what is
enough. Without ticks and below the threshold for bytes, a single worker that is through has sent
just as many requests as the items need. -/
theorem requests_within_thresholds (c : BulkConfig) :
    (∀ r, Reachable c r → ∃ batches, Trail c r batches) ∧
    (∀ r batches, Trail c r batches →
      r.sent = batches.map Batch.request ∧ ∀ b ∈ batches, b.Cut c) ∧
    (∀ (σ : Type) (server : Session.Server σ) (calls : List Call) (x : σ),
      let out := Session.run server (perform calls (Indexer.start c)) x
      (∃ r batches, Trail c r batches ∧ r.indexer c = out.1 ∧ r.sent = out.2.1.requests) ∧
      (∀ i < out.1.workers.length,
        ∀ q ∈ (Session.run server (out.1.receive i) out.2.2).2.1.requests,
          ∃ b : Batch, q = b.request ∧ b.full = true ∧ b.Cut c) ∧
      (c.workers ≤ 1 → (∀ ms, .advance ms ∉ calls) → out.1.phase = .closed →
        (∀ q ∈ out.2.1.requests, Below c q) →
        out.2.1.requests.length = requestsFor c.flushItems out.1.tally.stats.added)) ∧
    (c.workers ≤ 1 → ∀ s, UntimedActs c (Scene.start c) s → s.AllEnded →
      (∀ q ∈ s.run.sent, Below c q) →
      s.run.sent.length = requestsFor c.flushItems s.run.accepted.length) := by
  refine ⟨fun r => Trail.of_reachable, fun r batches htrail => ⟨htrail.sent_eq, htrail.cut⟩, ?_, ?_⟩
  · intro σ server calls x out
    obtain ⟨r, hfollows, hrests⟩ : ∃ r, Follows c (Run.start c) out.2.1 r ∧ Rests c out.1 r :=
      (Rests.start c).perform calls x
    have hreachable : Reachable c r := hfollows.steps
    obtain ⟨batches, htrail⟩ := Trail.of_reachable hreachable
    refine ⟨⟨r, batches, htrail, hrests.indexer_eq, ?_⟩, ?_, ?_⟩
    · simpa [Run.start] using hfollows.sent
    · exact fun i hi => hrests.receive_full hreachable hi out.2.2
    · intro hworkers hticks hclosed hbelow
      have hcount := (Filled.start hworkers).perform rfl calls hticks x hclosed hbelow
      rwa [Nat.zero_add] at hcount
  · intro hworkers s hacts hended hbelow
    obtain ⟨fulls, last, hpacked⟩ := Packed.of_acts hworkers hacts
    have hdrained := (hacts.acts.fits (.start c)).drained hended
    exact hpacked.length_sent hdrained.backlog_eq_nil hbelow

/-- A call of `add` is late, and its item is sent because the queue has ended. -/
theorem requests_within_thresholds_late_item :
    let c : BulkConfig := { flushItems := 2 }
    let a : BulkItem := .delete "hero" "1"
    let b : BulkItem := .delete "hero" "2"
    let d : BulkItem := .delete "hero" "3"
    let out := Session.run (fun _ (x : Unit) => (.error (.transport "refused"), x))
      (perform [.add a, .receive 0, .add b, .add d, .close] (Indexer.start c)) ()
    out.2.1.requests.length = 2 ∧
      ∃ s, UntimedActs c (Scene.start c) s ∧ s.AllEnded ∧ s.run.accepted = [a] ∧
        s.run.sent.length = 1 := by
  intro c a b d
  obtain ⟨-, -, hcalls, hscenes⟩ := requests_within_thresholds c
  dsimp only
  refine ⟨?_, ?_⟩
  · obtain ⟨-, -, hcount⟩ := hcalls Unit (fun _ (x : Unit) => (.error (.transport "refused"), x))
      [.add a, .receive 0, .add b, .add d, .close] ()
    exact (hcount (by decide) (by simp) (by decide +kernel) (by decide +kernel)).trans
      (by decide +kernel)
  · have hhands : (Run.start c).hands = [] ++ ⟨{ nextTick := 2000 }, .idle⟩ :: [] := rfl
    have called : UntimedActs c (Scene.start c) _ := .act .refl (.of_sent_eq (.add a) rfl)
    have cloned := (called.act (.of_sent_eq (.move rfl (.check rfl)) rfl)).act
      (.of_sent_eq (.move rfl (.clone rfl)) rfl)
    have waiting := ((cloned.act (.of_sent_eq .close rfl)).act
      (.of_sent_eq (.begin rfl rfl) rfl)).act (.of_sent_eq (.hangUp rfl) rfl)
    have queued := (waiting.act (.of_sent_eq (.move rfl .encode) rfl)).act
      (.of_sent_eq (.enqueue rfl (by decide) (by decide)) rfl)
    have held := queued.act (.of_sent_eq
      (.work ⟨.hold rfl hhands (by decide +kernel), rfl, rfl, rfl⟩ nofun) rfl)
    have done := (held.act (.of_sent_eq (.count rfl) rfl)).act
      (.of_sent_eq (.move rfl .finish) rfl)
    -- the call has returned, so that nobody can send any more
    have sent := done.act ⟨.work ⟨.flush rfl (by decide), rfl, rfl, rfl⟩ nofun,
      fun _ _ _ => ⟨by decide, rfl⟩⟩
    have answered := sent.act (.of_sent_eq
      (.work ⟨.answer rfl (.error (.transport "refused")), rfl, rfl, rfl⟩ nofun) rfl)
    have settled := (answered.act (.of_sent_eq
      (.work ⟨.settle rfl, rfl, rfl, rfl⟩ nofun) rfl)).act
      (.of_sent_eq (.work ⟨.settled rfl, rfl, rfl, rfl⟩ nofun) rfl)
    have ended := settled.act (.of_sent_eq (@Act.exit _ _ 0 _ rfl rfl rfl (by decide)) rfl)
    exact ⟨_, ended, by decide, rfl,
      (hscenes (by decide) _ ended (by decide) (by decide +kernel)).trans (by decide +kernel)⟩

end SearchStore.Bulk
