import Mathlib.Logic.Function.Basic
import SearchStore.Engine.Session

/-! # Sessions beside each other

Several sessions can work with one server at the same time. Each of them takes
its steps in order, but which session takes the next step is open, and so the
state that a session finds depends on what the others have sent before. Only if
one of them has all its turns before the other begins, both do what they do when
they are carried out one after the other (`Interleaved.in_turn_iff`).
-/

namespace SearchStore.Session

variable {ι α σ : Type} [DecidableEq ι] {server : Server σ} {s s' : ι → Session α} {x y : σ}
  {order : List ι}

/-- Sessions that go on beside each other, up to some point of each. The order says whose turn it
was to send a request; waits and reports do not concern the server. -/
inductive Interleaved (server : Server σ) :
    (ι → Session α) → σ → List ι → (ι → Session α) → σ → Prop
  | stop (s : ι → Session α) (x : σ) : Interleaved server s x [] s x
  | send {s s' : ι → Session α} {x y : σ} {order : List ι} {i : ι} {r : Request}
      {next : Except Error Response → Session α} (hturn : s i = .send r next)
      (hrest : Interleaved server (Function.update s i (next (server r x).1)) (server r x).2
        order s' y) : Interleaved server s x (i :: order) s' y
  | wait {s s' : ι → Session α} {x y : σ} {order : List ι} {i : ι} {d : Nat} {next : Session α}
      (hturn : s i = .wait d next)
      (hrest : Interleaved server (Function.update s i next) x order s' y) :
      Interleaved server s x order s' y
  | report {s s' : ι → Session α} {x y : σ} {order : List ι} {i : ι} {m : Report}
      {next : Session α} (hturn : s i = .report m next)
      (hrest : Interleaved server (Function.update s i next) x order s' y) :
      Interleaved server s x order s' y

/-- A session that sends nothing leaves every state as it is, and does the same with each. -/
theorem run_of_requests_nil {session : Session α} {a : α} {t : Trace}
    (h : run server session x = (a, t, y)) (ht : t.requests = []) :
    y = x ∧ ∀ z, run server session z = (a, t, z) := by
  induction session generalizing t with
  | done b =>
    obtain ⟨rfl, rfl, rfl⟩ : b = a ∧ {} = t ∧ x = y := by simpa [run] using h
    exact ⟨rfl, fun _ => rfl⟩
  | send r next =>
    simp only [run, Prod.mk.injEq] at h
    obtain ⟨-, rfl, -⟩ := h
    exact absurd ht (List.cons_ne_nil _ _)
  | wait d next ih =>
    simp only [run, Prod.mk.injEq] at h
    obtain ⟨rfl, rfl, rfl⟩ := h
    obtain ⟨hstate, hsame⟩ := ih rfl ht
    exact ⟨hstate, fun z => by rw [run, hsame z]⟩
  | report m next ih =>
    simp only [run, Prod.mk.injEq] at h
    obtain ⟨rfl, rfl, rfl⟩ := h
    obtain ⟨hstate, hsame⟩ := ih rfl ht
    exact ⟨hstate, fun z => by rw [run, hsame z]⟩

namespace Interleaved

/-- A session that has ended is not the one that takes the next step. -/
theorem update_of_done {i j : ι} {a : α} {next : Session α} (hdone : s i = .done a)
    (hturn : ∀ b, s j ≠ .done b) : Function.update s j next i = .done a := by
  rcases eq_or_ne i j with rfl | hij
  · exact absurd hdone (hturn a)
  · rw [Function.update_of_ne hij, hdone]

theorem done {i : ι} {a : α} (h : Interleaved server s x order s' y) (hdone : s i = .done a) :
    s' i = .done a := by
  induction h with
  | stop => exact hdone
  | send hturn _ ih => exact ih (update_of_done hdone (by simp [hturn]))
  | wait hturn _ ih => exact ih (update_of_done hdone (by simp [hturn]))
  | report hturn _ ih => exact ih (update_of_done hdone (by simp [hturn]))

theorem trans {s'' : ι → Session α} {z : σ} {order' : List ι}
    (h : Interleaved server s x order s' y) (h' : Interleaved server s' y order' s'' z) :
    Interleaved server s x (order ++ order') s'' z := by
  induction h with
  | stop => exact h'
  | send hturn _ ih => exact .send hturn (ih h')
  | wait hturn _ ih => exact .wait hturn (ih h')
  | report hturn _ ih => exact .report hturn (ih h')

/-- A session that is carried out while the others rest. -/
theorem of_run (server : Server σ) (s : ι → Session α) (i : ι) (x : σ) :
    Interleaved server s x (List.replicate (run server (s i) x).2.1.requests.length i)
      (Function.update s i (.done (run server (s i) x).1)) (run server (s i) x).2.2 := by
  generalize hi : s i = session
  induction session generalizing s x with
  | done a =>
    rw [run, ← hi, Function.update_eq_self]
    exact .stop s x
  | send r next ih =>
    have hrest := ih (server r x).1 (Function.update s i (next (server r x).1)) (server r x).2
      (Function.update_self ..)
    rw [Function.update_idem] at hrest
    exact .send hi hrest
  | wait d next ih =>
    have hrest := ih (Function.update s i next) x (Function.update_self ..)
    rw [Function.update_idem] at hrest
    exact .wait hi hrest
  | report m next ih =>
    have hrest := ih (Function.update s i next) x (Function.update_self ..)
    rw [Function.update_idem] at hrest
    exact .report hi hrest

/-- With no turns nothing is sent, and the state stays. -/
theorem state_eq (h : Interleaved server s x [] s' y) : y = x := by
  generalize hnil : ([] : List ι) = order at h
  induction h with
  | stop => rfl
  | send => exact absurd hnil.symm (List.cons_ne_nil _ _)
  | wait _ _ ih => exact ih hnil
  | report _ _ ih => exact ih hnil

/-- If one session has all the first turns, and ends, it has been carried out before the others
went on. -/
theorem of_turns {i : ι} {a : α} {n : Nat} {rest : List ι}
    (h : Interleaved server s x (List.replicate n i ++ rest) s' y) (hrest : i ∉ rest)
    (hdone : s' i = .done a) :
    ∃ t z, run server (s i) x = (a, t, z) ∧ t.requests.length = n ∧
      Interleaved server (Function.update s i (.done a)) z rest s' y := by
  -- by induction on the steps: those of the session itself are put back in front of its run, and
  -- those of the others, which are only waits and reports before their turns, are taken later
  generalize horder : List.replicate n i ++ rest = order at h
  induction h generalizing n rest with
  | stop s x =>
    obtain ⟨hn, rfl⟩ := List.append_eq_nil_iff.mp horder
    obtain rfl : n = 0 := List.replicate_eq_nil_iff _ |>.mp hn
    refine ⟨{}, x, by rw [hdone, run], rfl, ?_⟩
    rw [← hdone, Function.update_eq_self]
    exact .stop s x
  | @send s s' x y order j r next hturn _ ih =>
    cases n with
    | zero =>
      -- another session sends, and this one has nothing to send any more
      obtain rfl : rest = j :: order := horder
      obtain ⟨hij, hrest⟩ := List.ne_and_not_mem_of_not_mem_cons hrest
      obtain ⟨t, z, hrun, ht, hothers⟩ := ih (n := 0) hrest hdone rfl
      rw [Function.update_of_ne hij] at hrun
      obtain ⟨rfl, hsilent⟩ := run_of_requests_nil hrun (List.length_eq_zero_iff.mp ht)
      refine ⟨t, x, hsilent x, ht, .send (by rwa [Function.update_of_ne (Ne.symm hij)]) ?_⟩
      rwa [Function.update_comm hij]
    | succ n =>
      obtain ⟨rfl, rfl⟩ := List.cons.inj horder
      obtain ⟨t, z, hrun, rfl, hothers⟩ := ih hrest hdone rfl
      rw [Function.update_self] at hrun
      rw [Function.update_idem] at hothers
      refine ⟨{ t with requests := r :: t.requests }, z, ?_, rfl, hothers⟩
      simp only [hturn, run, hrun]
  | @wait s s' x y order j d next hturn _ ih =>
    obtain ⟨t, z, hrun, ht, hothers⟩ := ih hrest hdone horder
    rcases eq_or_ne i j with rfl | hij
    · rw [Function.update_self] at hrun
      rw [Function.update_idem] at hothers
      exact ⟨{ t with waited := d + t.waited }, z, by rw [hturn, run, hrun], ht, hothers⟩
    · rw [Function.update_of_ne hij] at hrun
      refine ⟨t, z, hrun, ht, .wait (by rwa [Function.update_of_ne (Ne.symm hij)]) ?_⟩
      rwa [Function.update_comm hij]
  | @report s s' x y order j m next hturn _ ih =>
    obtain ⟨t, z, hrun, ht, hothers⟩ := ih hrest hdone horder
    rcases eq_or_ne i j with rfl | hij
    · rw [Function.update_self] at hrun
      rw [Function.update_idem] at hothers
      exact ⟨{ t with reports := m :: t.reports }, z, by rw [hturn, run, hrun], ht, hothers⟩
    · rw [Function.update_of_ne hij] at hrun
      refine ⟨t, z, hrun, ht, .report (by rwa [Function.update_of_ne (Ne.symm hij)]) ?_⟩
      rwa [Function.update_comm hij]

/-- Two sessions take all their turns one after the other exactly if they are carried out one after
the other. -/
theorem in_turn_iff {i j : ι} (hne : j ≠ i) {a b : α} {n m : Nat} :
    (∃ s', s' i = .done a ∧ s' j = .done b ∧
      Interleaved server s x (List.replicate n i ++ List.replicate m j) s' y) ↔
    ∃ t u z, run server (s i) x = (a, t, z) ∧ t.requests.length = n ∧
      run server (s j) z = (b, u, y) ∧ u.requests.length = m := by
  constructor
  · rintro ⟨s', hi, hj, h⟩
    obtain ⟨t, z, hfirst, ht, h⟩ := h.of_turns (by simp [hne.symm]) hi
    rw [← List.append_nil (List.replicate m j)] at h
    obtain ⟨u, y', hsecond, hu, h⟩ := h.of_turns List.not_mem_nil hj
    rw [Function.update_of_ne hne] at hsecond
    obtain rfl := h.state_eq
    exact ⟨t, u, z, hfirst, ht, hsecond, hu⟩
  · rintro ⟨t, u, z, hfirst, rfl, hsecond, rfl⟩
    have h := of_run server s i x
    have h' := of_run server (Function.update s i (.done a)) j z
    rw [hfirst] at h
    rw [Function.update_of_ne hne, hsecond] at h'
    refine ⟨_, ?_, Function.update_self .., h.trans h'⟩
    rw [Function.update_of_ne hne.symm, Function.update_self]

end Interleaved

end SearchStore.Session
