import BolterTrader.Streams.Dispatcher

/-! A bounded dispatcher after an overflow: the flag and the new revision keep every callback
back until a `Reset`, but for the one that had passed its check before. -/
namespace BolterTrader.WsDispatch
open Foundations Foundations.Transition Foundations.Threads List Option

inductive DispatchError where
 | bufferFull

def Dispatcher.dispatchChecked (d:Dispatcher):Option DispatchError:=
 if d.paused then
  if d.overflow then some .bufferFull
  else if 0<d.maxBuffer∧d.maxBuffer≤d.buffer.length then some .bufferFull
  else none
 else none

structure Dispatcher.Sealed (maxBuffer:ℕ) (d:Dispatcher):Prop where
 bound:d.maxBuffer=maxBuffer
 buffer:d.buffer.length≤ maxBuffer
 eras:∀ t∈d.threads,t.era≤d.era
 shut:d.overflow=true→ d.paused=true∧∀ t∈d.threads,t.era≠d.era

variable {maxBuffer:ℕ} {d d':Dispatcher} {event:Event} {before after:List Thread} {t:Thread}

theorem eras_kept {n:ℕ} (hthr:d.threads=before++t::after) (mid:List Thread)
 (hmid:∀ u∈mid,u.era=t.era) (h:∀ u∈d.threads,u.era≠n):
 ∀ u∈before++(mid++after),u.era≠n:=by
 grind

theorem Dispatcher.Sealed.moves (hmax : 0 < maxBuffer) (h : d.Sealed maxBuffer) (hmoves : Moves d event d') :
    d'.Sealed maxBuffer := by
  obtain ⟨hle, hold⟩ := moves_threads hmoves
  have hera : ∀ u ∈ d'.threads, u.era ≤ d'.era := by
    intro u hu
    obtain ⟨heq, -⟩ | ⟨t, ht, heq, -⟩ := hold u hu
    · exact heq.trans_le hle
    · exact heq.symm.trans_le ((h.eras t ht).trans hle)
  cases hmoves with
  | pause => exact {h with shut := fun ho => ⟨rfl, (h.shut ho).2⟩}
  | reset => exact ⟨h.bound, Nat.zero_le _, hera, nofun⟩
  | ignore => exact h
  | resume _ hfits =>
    refine ⟨h.bound, Nat.zero_le _, hera, fun ho => ?_⟩
    -- an overflown dispatcher is not resumed
    cases hfits.symm.trans ho
  | refuse => exact {h with}
  | overflow hpaused =>
    refine ⟨h.bound, Nat.zero_le _, hera, fun _ => ⟨hpaused, fun t ht => ?_⟩⟩
    exact (Nat.lt_succ_of_le (h.eras t ht)).ne
  | buffer hpaused hroom =>
    refine ⟨h.bound, ?_, hera, h.shut⟩
    rw [h.bound] at hroom
    grind
  | deliver hopen =>
    refine {h with eras := hera, shut := fun ho => ?_}
    cases hopen.symm.trans (h.shut ho).1
  | lock hthr | pass hthr | start hthr | next hthr =>
    exact ⟨h.bound, h.buffer, hera,
      fun ho => ⟨(h.shut ho).1, eras_kept hthr [_] (by simp) (h.shut ho).2⟩⟩
  | fail hthr | last hthr | giveUp hthr =>
    exact ⟨h.bound, h.buffer, hera,
      fun ho => ⟨(h.shut ho).1, eras_kept hthr [] (by simp) (h.shut ho).2⟩⟩
  | unpause hthr _ _ _ hcurrent =>
    exact ⟨h.bound, h.buffer, hera, fun ho => absurd hcurrent ((h.shut ho).2 _ (mem_of_split hthr))⟩
  | refill hthr =>
    exact ⟨h.bound, Nat.zero_le _, hera,
      fun ho => ⟨(h.shut ho).1, eras_kept hthr [_] (by simp) (h.shut ho).2⟩⟩

theorem sealed_new (maxBuffer:ℕ):(newDispatcher maxBuffer).Sealed maxBuffer where
 bound:=rfl
 buffer:=Nat.zero_le _
 eras:=nofun
 shut:=nofun

theorem overflown_era (ho : d.overflow = true) (hne : event ≠ .reset) (hmoves : Moves d event d') :
    d'.era = d.era := by
  cases hmoves with
  | reset => exact absurd rfl hne
  | overflow _ hfits => cases hfits.symm.trans ho
  | _ => rfl

/-! ## Callbacks that had passed their check -/

def Dispatcher.Late (d₀ d:Dispatcher):Prop:=
 (d.started=d₀.started∧∀ t∈d.threads,t.phase=.checked→ t∈d₀.threads)∨
  (∃ t∈d₀.threads,t.phase=.checked∧d.started=d₀.started++t.jobs.head?.toList)∧
   ∀ t∈d.threads,t.phase≠.checked

namespace Dispatcher.Late
variable {d₀:Dispatcher}

theorem kept (h:d₀.Late d) (hst:d'.started=d.started) (hthr:∀ u∈d'.threads,u.phase=.checked→ u∈d.threads):
 d₀.Late d':=by
 obtain ⟨heq,hchk⟩ | ⟨⟨t,ht,hph,heq⟩,hchk⟩:=h
 · exact .inl ⟨hst.trans heq,fun u hu hph=>hchk u (hthr u hu hph) hph⟩
 · exact .inr ⟨⟨t,ht,hph,hst.trans heq⟩,fun u hu hph=>hchk u (hthr u hu hph) hph⟩

theorem moved (h:d₀.Late d) (hthr:d.threads=before++t::after) (mid:List Thread)
 (hmid:∀ u∈mid,u.phase≠.checked) (hth':d'.threads=before++(mid++after)) (hst:d'.started=d.started):
 d₀.Late d':=by
 refine h.kept hst fun u hu hph=>?_
 grind

theorem start (h:d₀.Late d) (hexcl:d.Exclusive) (hthr:d.threads=before++t::after) (hph:t.phase=.checked)
 (hth':d'.threads=before ++ {t with phase:=.running}::after)
 (hst:d'.started=d.started++t.jobs.head?.toList):d₀.Late d':=by
 obtain ⟨heq,hchk⟩ | ⟨-,hchk⟩:=h
 · refine .inr ⟨⟨t,hchk t (mem_of_split hthr) hph,hph,by rw[hst,heq]⟩,fun u hu hphu=>?_⟩
   rw[hth'] at hu
   -- the thread that starts holds the delivery lock, so that every other one is idle
   have hidle:=(hexcl.others_idle hthr (by simp[Thread.delivers,hph])).1
   rcases @mem_replaced _ before [{t with phase:=.running}] after u hu with hnew | hold
   all_goals grind [Thread.delivers]
 all_goals grind

theorem moves (h : d₀.Late d) (hexcl : d.Exclusive) (hsealed : d.Sealed maxBuffer)
    (ho : d.overflow = true) (hne : event ≠ .reset) (hmoves : Moves d event d') :
    d'.overflow = true ∧ d₀.Late d' := by
  obtain ⟨hpaused, hera⟩ := hsealed.shut ho
  cases hmoves with
  | reset => exact absurd rfl hne
  | pause | ignore | refuse | buffer => exact ⟨ho, h.kept rfl fun u hu _ => hu⟩
  | overflow => exact ⟨rfl, h.kept rfl fun u hu _ => hu⟩
  | resume _ hfits => cases hfits.symm.trans ho
  | deliver hopen => cases hopen.symm.trans hpaused
  | lock hthr | next hthr => exact ⟨ho, h.moved hthr [_] (by simp) rfl rfl⟩
  | pass hthr _ hcurrent => exact absurd hcurrent (hera _ (mem_of_split hthr))
  | fail hthr | last hthr | giveUp hthr => exact ⟨ho, h.moved hthr [] (by simp) rfl rfl⟩
  | start hthr hphase => exact ⟨ho, h.start hexcl hthr hphase rfl rfl⟩
  | unpause hthr _ _ _ hcurrent | refill hthr _ _ _ hcurrent =>
    grind

end Dispatcher.Late

/-- As long as the revision does not wrap, a bounded dispatcher that overflowed stays closed until a
`Reset`: it refuses every dispatch, no thread has the current revision, and at most the callback that had
passed its check before still starts. -/
theorem overflow_fails_closed (hmax : 0 < maxBuffer) {events : List Event}
    (hrun : run step (newDispatcher maxBuffer) events = some d) (hera : d.era < UInt64.size) :
    d.buffer.length ≤ maxBuffer ∧ (d.dispatchChecked = some .bufferFull → d.dispatch.overflow = true) ∧
    (d.overflow = true → ∀ later e, (∀ event ∈ later, event ≠ .reset) → run step d later = some e →
      e.paused = true ∧ e.dispatchChecked = some .bufferFull ∧ (∀ t ∈ e.threads, t.revision ≠ e.revision) ∧
      ∃ late, e.started = d.started ++ late ∧ late.length ≤ 1 ∧
        ∀ job ∈ late, ∃ t ∈ d.threads, t.phase = .checked ∧ t.jobs.head? = some job) := by
  obtain ⟨⟨hexcl, hsealed⟩, hnum⟩ := invariant_of_moves (fun d => d.Exclusive ∧ d.Sealed maxBuffer)
    (fun _ _ _ h _ hmoves => ⟨h.1.moves hmoves, h.2.moves hmax hmoves⟩) (numbered_new maxBuffer)
    ⟨exclusive_new maxBuffer, sealed_new maxBuffer⟩ (along_true _ _) hrun hera
  refine ⟨hsealed.buffer, fun hfull => ?_, fun ho later e hne hlater => ?_⟩
  · grind [Dispatcher.dispatchChecked,Dispatcher.dispatch]
  · have hkeep : ∀ s event s', (s.Exclusive ∧ s.Sealed maxBuffer ∧ s.Numbered ∧ s.era = d.era ∧
          s.overflow = true ∧ d.Late s) → event ≠ .reset → step s event = some s' →
        s'.Exclusive ∧ s'.Sealed maxBuffer ∧ s'.Numbered ∧ s'.era = d.era ∧ s'.overflow = true ∧ d.Late s' := by
      rintro s event s' ⟨hexcls, hs, hnums, heras, hos, hlate⟩ hevent hstep
      have hmoves := moves_of_step hnums (heras.trans_lt hera) hstep
      exact ⟨hexcls.moves hmoves, hs.moves hmax hmoves, hnums.moves hmoves,
        (overflown_era hos hevent hmoves).trans heras, hlate.moves hexcls hs hos hevent hmoves⟩
    obtain ⟨-, hsealed', hnum', hera', ho', hlate⟩ := invariant_along _ hkeep
      ⟨hexcl, hsealed, hnum, rfl, ho, .inl ⟨rfl, fun _ ht _ => ht⟩⟩ (along_of_forall hne d) hlater
    obtain ⟨hpaused, hstale⟩ := hsealed'.shut ho'
    refine ⟨hpaused, by simp [Dispatcher.dispatchChecked, hpaused, ho'], fun t ht => ?_, ?_⟩
    · exact mt (hnum'.revision_eq_iff (hera'.trans_lt hera) ht).mp (hstale t ht)
    · obtain ⟨heq, -⟩ | ⟨⟨t, ht, hphase, heq⟩, -⟩ := hlate
      · exact ⟨[], by rw [heq, append_nil], Nat.zero_le _, by simp⟩
      all_goals grind

def overflowEvents:List Event:=[.dispatch,.lock 0,.check 0,.pause,.dispatch,.dispatch]

theorem overflow_after_check:∃ d:Dispatcher,run step (newDispatcher 1) overflowEvents=some d∧
 d.overflow=true∧∃ e,run step d [.start 0,.resume true,.dispatch]=some e∧e.paused=true∧e.started=[.callback 0]:=
 ⟨_,rfl,rfl,_,rfl,((@overflow_fails_closed 1 _ (by decide) overflowEvents rfl (by decide)).2.2 rfl
  [.start 0,.resume true,.dispatch] _ (by decide) rfl).1,rfl⟩

/-- A callback waits for the delivery lock while the revision runs once around: the overflow then gives
back the revision that the callback was dispatched with. -/
theorem callback_passes_after_wrap : ∃ d e,
    run step (newDispatcher 1) ([.dispatch] ++ (replicate (UInt64.size - 2 + 1) .reset ++
      [.pause, .dispatch, .dispatch])) = some d ∧ d.overflow = true ∧
    (∀ t ∈ d.threads, t.phase ≠ .checked) ∧ run step d [.lock 0, .check 0, .start 0] = some e ∧
    e.started = [.callback 0] := by
  have hresets := run_resets {newDispatcher 1 with
    dispatched := 1, admitted := [(0, 0)], threads := [⟨false, 0, 0, [.callback 0], .idle⟩]}
    (UInt64.size - 2)
  exact ⟨_, _, run_append_eq_some.mpr ⟨_, rfl, run_append_eq_some.mpr ⟨_, hresets, rfl⟩⟩, rfl,
    by decide, rfl, rfl⟩

end BolterTrader.WsDispatch
