import BolterTrader.Streams.Dispatcher

/-! Order and completeness of what the dispatcher delivers, for a dispatcher that one
ingress thread feeds and that is resumed by one caller at a time. -/
namespace BolterTrader.WsDispatch
open Foundations Foundations.Transition Foundations.Threads List

/-! ## No callback is lost -/

def Dispatcher.Holds (d:Dispatcher) (id:ℕ):Prop:=
 id∈d.buffer∨∃ t∈d.threads,t.era=d.era∧id∈t.callbacks

def Dispatcher.Kept (d:Dispatcher):Prop:=∀ p∈d.admitted,p.2=d.era→ p.1∈d.begun∨d.Holds p.1

section Kept

variable {d d':Dispatcher} {event:Event} {before after:List Thread} {t:Thread}

theorem kept_moved (h:d.Kept) (hthr:d.threads=before++t::after) (mid:List Thread)
 (hth':d'.threads=before++(mid++after)) (hadm:d'.admitted=d.admitted)
 (hrev:d'.era=d.era) (hbg:∀ id∈d.begun,id∈d'.begun)
 (hmid:∀ id,id∈d.buffer∨(t.era=d.era∧id∈t.callbacks) →
  id∈d'.begun∨id∈d'.buffer∨∃ u∈mid,u.era=d.era∧id∈u.callbacks):d'.Kept:=by
 intro p hp hcurr
 have hfd:∀ u,(u∈before∨u∈mid∨u∈after)→ u.era=d.era→ p.1∈u.callbacks →
   d'.Holds p.1:=by
  intro u hu hstam hid
  refine .inr ⟨u,?_,hrev▸hstam,hid⟩
  rw[hth',mem_append,mem_append]
  exact hu
 have hnext:p.1∈d.buffer∨(t.era=d.era∧p.1∈t.callbacks)→ p.1∈d'.begun∨d'.Holds p.1:=by
  intro hid
  rcases hmid p.1 hid with hstd | hbuff | ⟨u,hu,hstam,hcal⟩
  · exact .inl hstd
  · exact .inr (.inl hbuff)
  all_goals grind
 rcases h p (hadm▸hp) (hrev▸hcurr) with hstd | hbuff | ⟨u,hu,hstam,hid⟩
 all_goals grind

theorem kept_waited (h:d.Kept) (hthr:d.threads=before++t::after) (mid:List Thread)
 (hth':d'.threads=before++(mid++after)) (hadm:d'.admitted=d.admitted)
 (hrev:d'.era=d.era) (hbg:d'.begun=d.begun) (hbuf:d'.buffer=d.buffer)
 (hmid:∀ id∈t.callbacks,t.era=d.era → ∃ u∈mid,u.era=d.era∧id∈u.callbacks):
 d'.Kept:=by
 grind [kept_moved]

theorem kept_admitted (h:d.Kept) (hadm:d'.admitted=d.admitted++[(d.dispatched,d.era)])
 (hrev:d'.era=d.era) (hbg:d'.begun=d.begun) (hheld:∀ id,d.Holds id→ d'.Holds id)
 (hnew:d'.Holds d.dispatched):d'.Kept:=by
 intro p hp hcurr
 rw[hadm,mem_append,mem_singleton] at hp
 rcases hp with hold | rfl
 · exact (h p hold (hrev▸hcurr)).imp (hbg▸·) (hheld p.1)
 · exact .inr hnew

theorem Dispatcher.Kept.moves (h:d.Kept) (hexcl:d.Exclusive) (htra:d.Tracked)
 (hmv:Moves d event d'):d'.Kept:=by
 have hsta:∀ p∈d.admitted,p.2≠d.era+1:=fun p hp=>by
  have:=(htra.fresh p hp).2
  omega
 cases hmv with
 | pause | ignore | refuse=>exact h
 | reset | overflow=>exact fun p hp hcurr=>absurd hcurr (hsta p hp)
 | resume=>
  intro p hp hcurr
  rcases h p hp hcurr with hstd | hbuff | ⟨t,ht,hstam,hid⟩
  · exact .inl hstd
  · refine .inr (.inr ⟨_,mem_append_right _ (mem_singleton_self _),rfl,?_⟩)
    rw[Thread.callbacks,if_neg (by simp),callbacks_batch]
    exact hbuff
  · exact .inr (.inr ⟨t,mem_append_left _ ht,hstam,hid⟩)
 | buffer=>
  refine kept_admitted h rfl rfl rfl ?_ (.inl (by simp))
  rintro id (hbuff | hthre)
  · exact .inl (mem_append_left _ hbuff)
  · exact .inr hthre
 | deliver=>
  refine kept_admitted h rfl rfl rfl ?_ (.inr ⟨_,mem_append_right _ (mem_singleton_self _),rfl,?_⟩)
  · rintro id (hbuff | ⟨t,ht,hstam,hid⟩)
    · exact .inl hbuff
    · exact .inr ⟨t,mem_append_left _ ht,hstam,hid⟩
  · exact mem_singleton_self d.dispatched
 | @lock before after t hthr hfree hph=>
  exact kept_waited h hthr [{t with phase:=.locked}] rfl rfl rfl rfl rfl fun id hid hstam=>
   ⟨_,mem_singleton_self _,hstam,by simpa[Thread.callbacks,hph] using hid⟩
 | @pass before after t hthr hph=>
  exact kept_waited h hthr [{t with phase:=.checked}] rfl rfl rfl rfl rfl fun id hid hstam=>
   ⟨_,mem_singleton_self _,hstam,by simpa[Thread.callbacks,hph] using hid⟩
 | fail hthr hph hsta | giveUp hthr hrs hph hjobs hsta=>
  exact kept_waited h hthr [] rfl rfl rfl rfl rfl fun _ _ hcurr=>absurd hcurr hsta
 | @start before after t hthr hph=>
  have hwt:=callbacks_of_waiting (show t.phase≠.running by rw[hph]; decide)
  refine kept_moved h hthr [{t with phase:=.running}] rfl rfl rfl ?_ ?_
  · grind [mem_begun]
  · rintro id (hbuff | ⟨hstam,hid⟩)
    · exact .inr (.inl hbuff)
    · rw[hwt,callbacks_start,mem_append] at hid
      rcases hid with hhead | htail
      all_goals grind [Dispatcher.begun,Thread.callbacks,mem_singleton_self]
 | @next before after t hthr hph=>
  exact kept_waited h hthr [{t with jobs:=t.jobs.tail,phase:=.idle}] rfl rfl rfl rfl rfl
   fun id hid hstam=>⟨_,mem_singleton_self _,hstam,by simpa[Thread.callbacks,hph] using hid⟩
 | @last before after t hthr hph hd=>
  obtain ⟨id,hjobs⟩:=hexcl.single t (mem_of_split hthr) hd
  exact kept_waited h hthr [] rfl rfl rfl rfl rfl (by simp[Thread.callbacks,hph,hjobs])
 | unpause hthr hrs hph hjobs=>
  exact kept_waited h hthr [] rfl rfl rfl rfl rfl (by simp[Thread.callbacks,hjobs])
 | @refill before after t hthr hrs hph hjobs hcurr=>
  refine kept_moved h hthr [{t with jobs:=d.buffer.map .callback}] rfl rfl rfl (fun _=>id) ?_
  rintro id (hbuff | ⟨-,hid⟩)
  · refine .inr (.inr ⟨_,mem_singleton_self _,hcurr,?_⟩)
    rw[Thread.callbacks,if_neg (by simp[hph]),filterMap_callbacks]
    exact hbuff
  · simp[Thread.callbacks,hjobs] at hid

end Kept

/-! ## The hook comes first -/

def HookFirst (n id:ℕ) (jobs:List Job):Prop:=∀ before after,jobs=before++.callback id::after → .hook n∈before

section HookFirst

variable {n id:ℕ} {jobs:List Job} {job:Job}

theorem hookFirst_of_notMem (h : .callback id∉jobs):HookFirst n id jobs:=by
 intro before after heq
 grind

theorem HookFirst.tail (h:HookFirst n id jobs):HookFirst n id jobs.tail∨jobs.head?=some (.hook n):=by
 cases jobs with
 | nil=>exact .inl h
 | cons job=>
  by_cases hjob:job=.hook n
  · exact .inr (by rw[hjob]; rfl)
  · refine .inl fun before after heq=>?_
    have hmem:=h (job::before) after (by rw[cons_append]; exact congrArg _ heq)
    grind

theorem HookFirst.concat (h:HookFirst n id jobs) (hjob:job=.callback id → .hook n∈jobs):
 HookFirst n id (jobs++[job]):=by
 intro before after heq
 rcases eq_nil_or_concat after with rfl | ⟨init,last,rfl⟩
 · grind [append_inj']
 · rw[concat_eq_append,←cons_append,←append_assoc] at heq
   obtain ⟨hinit,-⟩:=append_inj' heq rfl
   exact h before init hinit

theorem hookFirst_batch (n id:ℕ) (ids:List ℕ):HookFirst n id ([.hook n]++ids.map .callback):=by
 intro before after heq
 cases before with
 | nil=>cases heq
 | cons=>
  grind

end HookFirst

structure Dispatcher.Hooked (d:Dispatcher):Prop where
 batches:∀ b∈d.batches,∀ id∈b.2,id<d.dispatched∧id∉d.buffer
 jobs:∀ b∈d.batches,∀ id∈b.2,∀ t∈d.threads,.hook b.1∈d.started∨HookFirst b.1 id t.jobs
 started:∀ b∈d.batches,∀ id∈b.2,HookFirst b.1 id d.started

section Hooked

variable {d d':Dispatcher} {event:Event} {before after:List Thread} {t:Thread}

theorem hooked_moved (h:d.Hooked) (hthr:d.threads=before++t::after) (mid:List Thread)
 (hth':d'.threads=before++(mid++after)) (hbat:d'.batches=d.batches)
 (hdis:d'.dispatched=d.dispatched) (hbuf:∀ id∈d'.buffer,id∈d.buffer)
 (hstd:d'.started=d.started)
 (hmid:∀ u∈mid,∀ n id,id∉d.buffer → .hook n∈d.started∨HookFirst n id t.jobs →
  .hook n∈d.started∨HookFirst n id u.jobs):d'.Hooked:=by
 refine ⟨?_,?_,?_⟩
 · intro b hb id hid
   obtain ⟨hlt,hnot⟩:=h.batches b (hbat▸hb) id hid
   grind
 · intro b hb id hid u hu
   rw[hbat] at hb
   rw[hstd]
   rw[hth',mem_append,mem_append] at hu
   have hall:=h.jobs b hb id hid
   rw[hthr] at hall
   rcases hu with hbef | hnew | haf
   · grind
   · exact hmid u hnew b.1 id (h.batches b hb id hid).2 (hall t (by simp))
   all_goals grind
 · rw[hbat,hstd]
   exact h.started

theorem hooked_joined (h:d.Hooked) (hthr:d'.threads=d.threads++[t]) (hbat:d'.batches=d.batches)
 (hdis:d.dispatched≤d'.dispatched) (hbuf:∀ id∈d'.buffer,id∈d.buffer)
 (hstd:d'.started=d.started)
 (hjobs:∀ n id,id<d.dispatched→ id∉d.buffer→HookFirst n id t.jobs):d'.Hooked:=by
 refine ⟨?_,?_,?_⟩
 · intro b hb id hid
   obtain ⟨hlt,hnot⟩:=h.batches b (hbat▸hb) id hid
   grind
 · intro b hb id hid u hu
   rw[hbat] at hb
   rw[hstd]
   rw[hthr,mem_append,mem_singleton] at hu
   rcases hu with hold | rfl
   · exact h.jobs b hb id hid u hold
   · exact .inr (hjobs b.1 id (h.batches b hb id hid).1 (h.batches b hb id hid).2)
 · rw[hbat,hstd]
   exact h.started

theorem notMem_of_buffered (hexcl:d.Exclusive) (htra:d.Tracked) {id:ℕ} (hid:id∈d.buffer):
 .callback id∉d.started∧∀ t∈d.threads,.callback id∉t.jobs:=by
 have hpla:=htra.placed id
 have hdis:=nodup_iff_count_le_one.mp htra.distinct id
 have hbuff:=count_pos_iff.mpr hid
 unfold Dispatcher.places at hpla
 have hbg:id∉d.begun:=fun hmem=>by
  have:=count_pos_iff.mpr hmem
  omega
 refine ⟨fun hstd=>hbg (mem_begun.mpr hstd),fun t ht hjob=>?_⟩
 rcases job_placed hexcl ht hjob with hmem | hwt
 · exact hbg hmem
 · have : 0<(d.threads.flatMap Thread.callbacks).count id:=
    count_pos_iff.mpr (mem_flatMap.mpr ⟨t,ht,hwt⟩)
   omega

theorem Dispatcher.Hooked.resume (h:d.Hooked) (hexcl:d.Exclusive) (htra:d.Tracked) (hook:Bool):
 (d.beginResume hook).Hooked:=by
 have hold:∀ n id,id<d.dispatched→ id∉d.buffer→HookFirst n id
   ((if hook then [.hook d.resumed] else [])++d.buffer.map .callback):=by
  intro n id _ hid
  refine hookFirst_of_notMem ?_
  cases hook<;>simpa using hid
 cases hook with
 | false=>exact hooked_joined h rfl (append_nil _) (Nat.le_refl _) (by simp[Dispatcher.beginResume]) rfl hold
 | true=>
  have hmem:∀ b∈(d.beginResume true).batches,b∈d.batches∨b=(d.resumed,d.buffer):=by
   intro b hb
   simpa[Dispatcher.beginResume] using hb
  refine ⟨?_,?_,?_⟩
  · intro b hb id hid
    refine ⟨?_,not_mem_nil⟩
    rcases hmem b hb with hbat | rfl
    · exact (h.batches b hbat id hid).1
    · have hct:0<d.buffer.count id:=count_pos_iff.mpr hid
      exact htra.known (by unfold Dispatcher.places; omega)
  · intro b hb id hid t ht
    rcases mem_append.mp ht with hthre | hnew
    · rcases hmem b hb with hbat | rfl
      · exact h.jobs b hbat id hid t hthre
      · exact .inr (hookFirst_of_notMem ((notMem_of_buffered hexcl htra hid).2 t hthre))
    · cases mem_singleton.mp hnew
      rcases hmem b hb with hbat | rfl
      · exact .inr (hold b.1 id (h.batches b hbat id hid).1 (h.batches b hbat id hid).2)
      · exact .inr (hookFirst_batch d.resumed id d.buffer)
  · intro b hb id hid
    rcases hmem b hb with hbat | rfl
    · exact h.started b hbat id hid
    · exact hookFirst_of_notMem (notMem_of_buffered hexcl htra hid).1

theorem Dispatcher.Hooked.start (h:d.Hooked) (hexcl:d.Exclusive) (hthr:d.threads=before++t::after)
 (hph:t.phase=.checked):
 ({d with
   threads:=before ++ {t with phase:=.running}::after
   started:=d.started++t.jobs.head?.toList}:Dispatcher).Hooked:=by
 have ht:t∈d.threads:=mem_of_split hthr
 obtain ⟨job,rest,hjobs⟩:=exists_cons_of_ne_nil (hexcl.jobs t ht (by simp[Thread.delivers,hph]))
 refine ⟨h.batches,?_,?_⟩
 · intro b hb id hid u hu
   have hall:=h.jobs b hb id hid
   grind
 · intro b hb id hid
   show HookFirst b.1 id (d.started++t.jobs.head?.toList)
   rw[hjobs,List.head?_cons,Option.toList_some]
   refine (h.started b hb id hid).concat fun hjob=>?_
   -- the callback is the first of its thread, so the hook is not behind it
   rcases h.jobs b hb id hid t ht with hstd | hfst
   · exact hstd
   · have:=hfst [] rest (by rw[hjobs,hjob]; rfl)
     cases this

theorem Dispatcher.Hooked.moves (h:d.Hooked) (hexcl:d.Exclusive) (htra:d.Tracked)
 (hmv:Moves d event d'):d'.Hooked:=by
 cases hmv with
 | pause | ignore=>exact ⟨h.batches,h.jobs,h.started⟩
 | refuse=>
  exact ⟨fun b hb id hid=>⟨Nat.lt_succ_of_lt (h.batches b hb id hid).1,(h.batches b hb id hid).2⟩,h.jobs,
   h.started⟩
 | reset=>exact ⟨fun b hb id hid=>⟨(h.batches b hb id hid).1,not_mem_nil⟩,h.jobs,h.started⟩
 | overflow=>
  exact ⟨fun b hb id hid=>⟨Nat.lt_succ_of_lt (h.batches b hb id hid).1,not_mem_nil⟩,h.jobs,h.started⟩
 | buffer=>
  refine ⟨fun b hb id hid=>?_,h.jobs,h.started⟩
  obtain ⟨hlt,hnot⟩:=h.batches b hb id hid
  refine ⟨Nat.lt_succ_of_lt hlt,?_⟩
  grind
 | resume=>exact h.resume hexcl htra _
 | deliver=>
  refine hooked_joined h rfl rfl (Nat.le_succ _) (fun _=>id) rfl fun n id hlt _=>hookFirst_of_notMem ?_
  grind
 | @lock before after t hthr=>
  exact hooked_moved h hthr [{t with phase:=.locked}] rfl rfl rfl (fun _=>id) rfl (by simp)
 | @pass before after t hthr=>
  exact hooked_moved h hthr [{t with phase:=.checked}] rfl rfl rfl (fun _=>id) rfl (by simp)
 | fail hthr | last hthr | giveUp hthr | unpause hthr=>
  exact hooked_moved h hthr [] rfl rfl rfl (fun _=>id) rfl (by simp)
 | start hthr hph=>exact h.start hexcl hthr hph
 | @next before after t hthr hph=>
  refine hooked_moved h hthr [{t with jobs:=t.jobs.tail,phase:=.idle}] rfl rfl rfl (fun _=>id) rfl ?_
  intro u hu n id _ hfst
  cases mem_singleton.mp hu
  rcases hfst with hstd | hfst
  · exact .inl hstd
  · rcases hfst.tail with htail | hhead
    · exact .inr htail
    · exact .inl (running_started hexcl (mem_of_split hthr) hph hhead)
 | @refill before after t hthr=>
  refine hooked_moved h hthr [{t with jobs:=d.buffer.map .callback}] rfl rfl rfl (by simp) rfl ?_
  intro u hu n id hid _
  cases mem_singleton.mp hu
  exact .inr (hookFirst_of_notMem (by simpa using hid))

end Hooked

/-! ## Dispatch order -/

def Thread.live (revision:ℕ) (t:Thread):List ℕ:=
 if t.era=revision then t.callbacks
 else if t.phase=.checked then t.jobs.head?.toList.filterMap Job.callback?
 else []

def liveOf (resume:Bool) (revision:ℕ) (threads:List Thread):List ℕ:=
 threads.flatMap fun t=>if t.resume=resume then t.live revision else []

def Dispatcher.queue (d:Dispatcher):List ℕ:=
 liveOf true d.era d.threads++d.buffer++liveOf false d.era d.threads

def OneAtATime (d:Dispatcher):Event→Prop
 | .dispatch=>∀ t∈d.threads,t.resume=true
 | .resume _=>∀ t∈d.threads,t.resume=false
 | _=>True

instance (d:Dispatcher):∀ event,Decidable (OneAtATime d event)
 | .dispatch=>inferInstanceAs (Decidable (∀ t∈d.threads,t.resume=true))
 | .resume _=>inferInstanceAs (Decidable (∀ t∈d.threads,t.resume=false))
 | .pause | .reset | .lock _ | .check _ | .start _ | .finish _ | .settle _=>.isTrue trivial

structure Dispatcher.InOrder (d:Dispatcher):Prop where
 single:∀ kind,d.threads.countP (fun t=>t.resume=kind)≤1
 current:∀ t∈d.threads,t.resume=true→ t.era=d.era→ d.paused=true
 empty:d.paused=false→ d.buffer=[]
 behind:∀ t∈d.threads,t.resume=false →
  d.buffer=[]∧∀ u∈d.threads,u.resume=true→ u.era=d.era→ u.callbacks=[]
 ordered:(d.begun++d.queue).Pairwise (· < ·)
 below:∀ id∈d.begun++d.queue,id<d.dispatched

section Order

variable {d d':Dispatcher} {event:Event} {before after:List Thread} {t:Thread}

theorem liveOf_append (resume:Bool) (rev:ℕ) (l₁ l₂:List Thread):
 liveOf resume rev (l₁++l₂)=liveOf resume rev l₁++liveOf resume rev l₂:=
 flatMap_append

theorem liveOf_singleton (resume:Bool) (rev:ℕ) (t:Thread):
 liveOf resume rev [t]=if t.resume=resume then t.live rev else []:=
 flatMap_singleton _ _

theorem liveOf_kind (resume:Bool) (rev:ℕ) {ths:List Thread} (h:∀ u∈ths,u.resume=resume):
 liveOf resume rev ths=ths.flatMap (Thread.live rev):=by
 refine flatMap_congr fun u hu=>?_
 rw[if_pos (h u hu)]

theorem liveOf_other (resume:Bool) (rev:ℕ) {ths:List Thread} (h:∀ u∈ths,u.resume = !resume):
 liveOf resume rev ths=[]:=by
 refine flatMap_eq_nil_iff.mpr fun u hu=>?_
 rw[h u hu]
 cases resume<;>rfl

theorem queue_resume {mid:List Thread} (hthr:d.threads=before++(mid++after))
 (hmid:∀ u∈mid,u.resume=true) (hos:∀ u∈before++after,u.resume=false):
 d.queue=mid.flatMap (Thread.live d.era)++d.buffer++liveOf false d.era (before++after):=by
 have hbef:=liveOf_other true d.era fun u hu=>hos u (mem_append_left after hu)
 have haf:=liveOf_other true d.era fun u hu=>hos u (mem_append_right before hu)
 have hnone:=liveOf_other false d.era hmid
 simp only[Dispatcher.queue,hthr,liveOf_append,hbef,haf,hnone,liveOf_kind true d.era hmid,
  nil_append,append_nil]

theorem queue_dispatch {mid:List Thread} (hthr:d.threads=before++(mid++after))
 (hmid:∀ u∈mid,u.resume=false) (hos:∀ u∈before++after,u.resume=true):
 d.queue=liveOf true d.era (before++after)++d.buffer++mid.flatMap (Thread.live d.era):=by
 have hbef:=liveOf_other false d.era fun u hu=>hos u (mem_append_left after hu)
 have haf:=liveOf_other false d.era fun u hu=>hos u (mem_append_right before hu)
 have hnone:=liveOf_other true d.era hmid
 simp only[Dispatcher.queue,hthr,liveOf_append,hbef,haf,hnone,liveOf_kind false d.era hmid,
  nil_append,append_nil]

theorem live_of_current (h:t.era=d.era):t.live d.era=t.callbacks:=if_pos h

theorem live_of_stale (h:t.era≠d.era) (hph:t.phase≠.checked):t.live d.era=[]:=by
 rw[Thread.live,if_neg h,if_neg hph]

theorem live_start (hph:t.phase=.checked) (rev:ℕ):
 t.live rev =
  t.jobs.head?.toList.filterMap Job.callback?++Thread.live rev {t with phase:=.running}:=by
 have hwt:=callbacks_of_waiting (show t.phase≠.running by rw[hph]; decide)
 unfold Thread.live
 split
 · rw[hwt,callbacks_start]
   rfl
 · simp

theorem live_outdated {revision:ℕ} (h:t.era<revision) (old:ℕ):
 (t.live revision).Sublist (t.live old):=by
 have hsta:t.era≠revision:=by omega
 unfold Thread.live
 rw[if_neg hsta]
 by_cases hph:t.phase=.checked
 · grind [callbacks_of_waiting,callbacks_start]
 · grind

theorem liveOf_outdated (resume:Bool) {rev:ℕ} (old:ℕ) {ths:List Thread}
 (h:∀ t∈ths,t.era<rev):
 (liveOf resume rev ths).Sublist (liveOf resume old ths):=by
 induction ths with
 | nil=>exact Sublist.refl _
 | cons t rest ih=>
  have hrest:=ih fun u hu=>h u (mem_cons_of_mem t hu)
  have hfst:=live_outdated (h t mem_cons_self) old
  grind [liveOf]

namespace Dispatcher.InOrder

theorem others (h:d.InOrder) (hthr:d.threads=before++t::after):
 ∀ u∈before++after,u.resume = !t.resume:=by
 have hct:=h.single t.resume
 rw[hthr,countP_append,countP_cons,if_pos (by simp)] at hct
 have hnone:(before++after).countP (fun u=>u.resume=t.resume)=0:=by
  rw[countP_append]
  omega
 grind

theorem single_moved (h:d.InOrder) (hthr:d.threads=before++t::after) (mid:List Thread)
 (hmid:∀ u∈mid,u.resume=t.resume) (hlen:mid.length≤1) (kind:Bool):
 (before++(mid++after)).countP (fun t=>t.resume=kind)≤1:=by
 have hct:=h.single kind
 have hless:mid.countP (fun t=>t.resume=kind)≤ if t.resume=kind then 1 else 0:=by
  grind [Nat.le_trans,countP_le_length,countP_eq_zero.mpr]
 grind

theorem moved_resume (h:d.InOrder) (hthr:d.threads=before++t::after) (ht:t.resume=true)
 (mid:List Thread) (hth':d'.threads=before++(mid++after))
 (hmid:∀ u∈mid,u.resume=true∧u.era=t.era) (hlen:mid.length≤1)
 (hrev:d'.era=d.era) (hdis:d'.dispatched=d.dispatched)
 (hpau:mid≠[]→ d'.paused=d.paused) (hnil:d'.paused=false→ d'.buffer=[])
 (hbeh:d.buffer=[]→(t.era=d.era→ t.callbacks=[]) →
  d'.buffer=[]∧∀ u∈mid,t.era=d.era→ u.callbacks=[])
 (hq:(d'.begun++(mid.flatMap (Thread.live d.era)++d'.buffer)).Sublist
  (d.begun++(t.live d.era++d.buffer))):d'.InOrder:=by
 have hos:∀ u∈before++after,u.resume=false:=by simpa[ht] using h.others hthr
 have htmem:t∈d.threads:=mem_of_split hthr
 have hmem:∀ u∈d'.threads,u∈mid∨u∈before++after:=by
  grind
 have hold:∀ u∈before++after,u∈d.threads:=fun u hu=>mem_of_others hthr hu
 have hsub:(d'.begun++d'.queue).Sublist (d.begun++d.queue):=by
  have hq':=hq.append_right (liveOf false d.era (before++after))
  have hthre:d.threads=before++([t]++after):=hthr
  rw[queue_resume hth' (fun u hu=>(hmid u hu).1) hos,
   queue_resume hthre (by simpa using ht) hos,hrev,flatMap_singleton]
  grind
 refine ⟨?_,?_,hnil,?_,h.ordered.sublist hsub,fun id hid=>hdis▸h.below id (hsub.subset hid)⟩
 · rw[hth']
   exact h.single_moved hthr mid (fun u hu=>by rw[(hmid u hu).1,ht]) hlen
 · intro u hu hrs hcurr
   rcases hmem u hu with hnew | hoth
   · rw[hpau (ne_nil_of_mem hnew)]
     exact h.current t htmem ht (by rw[←(hmid u hnew).2,hcurr,hrev])
   · grind
 · intro g hg hd
   have hgold:g∈d.threads:=by
    grind
   obtain ⟨hbuf,hres⟩:=h.behind g hgold hd
   grind

theorem moved_dispatch (h:d.InOrder) (hthr:d.threads=before++t::after) (ht:t.resume=false)
 (mid:List Thread) (hth':d'.threads=before++(mid++after)) (hmid:∀ u∈mid,u.resume=false)
 (hlen:mid.length≤1) (hrev:d'.era=d.era) (hdis:d'.dispatched=d.dispatched)
 (hpau:d'.paused=d.paused) (hbuf:d'.buffer=d.buffer)
 (hq:(d'.begun++(liveOf true d.era (before++after)++d.buffer ++
   mid.flatMap (Thread.live d.era))).Sublist
  (d.begun++(liveOf true d.era (before++after)++d.buffer++t.live d.era))):d'.InOrder:=by
 have hos:∀ u∈before++after,u.resume=true:=by simpa[ht] using h.others hthr
 have htmem:t∈d.threads:=mem_of_split hthr
 have hmem:∀ u∈d'.threads,u.resume=true→ u∈d.threads:=by
  grind
 have hsub:(d'.begun++d'.queue).Sublist (d.begun++d.queue):=by
  have hthre:d.threads=before++([t]++after):=hthr
  rw[queue_dispatch hth' hmid hos,queue_dispatch hthre (by simpa using ht) hos,hrev,hbuf,flatMap_singleton]
  exact hq
 refine ⟨?_,?_,?_,?_,h.ordered.sublist hsub,fun id hid=>hdis▸h.below id (hsub.subset hid)⟩
 · rw[hth']
   exact h.single_moved hthr mid (fun u hu=>by rw[hmid u hu,ht]) hlen
 · intro u hu hrs hcurr
   rw[hpau]
   exact h.current u (hmem u hu hrs) hrs (hcurr.trans hrev)
 · rw[hpau,hbuf]
   exact h.empty
 · intro g hg hd
   obtain ⟨hnone,hres⟩:=h.behind t htmem ht
   grind

theorem waited (h:d.InOrder) (hthr:d.threads=before++t::after) (mid:List Thread)
 (hth':d'.threads=before++(mid++after))
 (hmid:∀ u∈mid,u.resume=t.resume∧u.era=t.era∧
  (t.era=d.era→ t.callbacks=[]→ u.callbacks=[]))
 (hlen:mid.length≤1) (hlive:(mid.flatMap (Thread.live d.era)).Sublist (t.live d.era))
 (hrev:d'.era=d.era) (hdis:d'.dispatched=d.dispatched)
 (hpau:d'.paused=d.paused) (hbuf:d'.buffer=d.buffer) (hbg:d'.begun=d.begun):d'.InOrder:=by
 cases ht : t.resume with
 | true=>
  refine h.moved_resume hthr ht mid hth' (fun u hu=>⟨(hmid u hu).1.trans ht,(hmid u hu).2.1⟩) hlen
   hrev hdis (fun _=>hpau) (by rw[hpau,hbuf]; exact h.empty) ?_ ?_
  all_goals grind
 | false=>
  refine h.moved_dispatch hthr ht mid hth' (fun u hu=>(hmid u hu).1.trans ht) hlen hrev
   hdis hpau hbuf ?_
  grind

theorem start (h:d.InOrder) (hexcl:d.Exclusive) (hthr:d.threads=before++t::after)
 (hph:t.phase=.checked):
 ({d with
   threads:=before ++ {t with phase:=.running}::after
   started:=d.started++t.jobs.head?.toList}:Dispatcher).InOrder:=by
 have htmem:t∈d.threads:=mem_of_split hthr
 have hwt:=callbacks_of_waiting (show t.phase≠.running by rw[hph]; decide)
 have hlive:=live_start hph d.era
 by_cases ht:t.resume=true
 · refine h.moved_resume hthr ht [{t with phase:=.running}] rfl (by simpa using ht) (Nat.le_refl _) rfl rfl
    (fun _=>rfl) h.empty ?_ ?_
   · intro hnone hcal
     refine ⟨hnone,fun u hu hcurr=>?_⟩
     cases mem_singleton.mp hu
     have hnil:=hcal hcurr
     rw[hwt,callbacks_start] at hnil
     exact (append_eq_nil_iff.mp hnil).2
   · rw[hlive,flatMap_singleton]
     simp[Dispatcher.begun]
 · replace ht : t.resume=false:=by simpa using ht
   -- nothing else can start: the buffer is empty, and a `Resume` has no callbacks or is stale
   obtain ⟨hnone,hres⟩:=h.behind t htmem ht
   have hidle:=(hexcl.others_idle hthr (by simp[Thread.delivers,hph])).1
   have hos:liveOf true d.era (before++after)=[]:=by
    refine flatMap_eq_nil_iff.mpr fun u hu=>?_
    have humem:u∈d.threads:=mem_of_others hthr hu
    have hrs:u.resume=true:=by simpa[ht] using h.others hthr u hu
    rw[if_pos hrs]
    grind [live_of_current,live_of_stale,Thread.delivers]
   refine h.moved_dispatch hthr ht [{t with phase:=.running}] rfl (by simpa using ht) (Nat.le_refl _) rfl rfl
    rfl rfl ?_
   rw[hlive,hos,hnone,flatMap_singleton]
   simp[Dispatcher.begun]

theorem outdated (h:d.InOrder) (htra:d.Tracked) (hthr:d'.threads=d.threads)
 (hrev:d'.era=d.era+1) (hbuf:d'.buffer=[]) (hbg:d'.begun=d.begun)
 (hdis:d.dispatched≤d'.dispatched):d'.InOrder:=by
 have hsta:∀ t∈d.threads,t.era<d.era+1:=fun t ht=>Nat.lt_succ_of_le (htra.stamped t ht)
 have hnone:∀ t∈d'.threads,t.era≠d'.era:=by
  grind
 have hsub:(d'.begun++d'.queue).Sublist (d.begun++d.queue):=by
  rw[Dispatcher.queue,Dispatcher.queue,hthr,hrev,hbuf,hbg]
  refine Sublist.append_left (Sublist.append (Sublist.append ?_ (nil_sublist _)) ?_) _
  all_goals grind [liveOf_outdated]
 refine ⟨by rw[hthr]; exact h.single,fun t ht _ hcurr=>absurd hcurr (hnone t ht),fun _=>hbuf,
  fun _ _ _=>⟨hbuf,fun u hu _ hcurr=>absurd hcurr (hnone u hu)⟩,h.ordered.sublist hsub,?_⟩
 intro id hid
 exact Nat.lt_of_lt_of_le (h.below id (hsub.subset hid)) hdis

theorem extend (h:d.InOrder) (d':Dispatcher) (hq:d'.begun++d'.queue=d.begun++d.queue++[d.dispatched])
 (hdis:d'.dispatched=d.dispatched+1):
 (d'.begun++d'.queue).Pairwise (· < ·)∧∀ id∈d'.begun++d'.queue,id<d'.dispatched:=by
 rw[hq,hdis]
 constructor
 · rw[pairwise_append]
   refine ⟨h.ordered,pairwise_singleton _ _,fun id hid last hlast=>?_⟩
   cases mem_singleton.mp hlast
   exact h.below id hid
 · intro id hid
   rcases mem_append.mp hid with hold | hlast
   · exact Nat.lt_succ_of_lt (h.below id hold)
   · grind

theorem resume (h:d.InOrder) (hnone:∀ t∈d.threads,t.resume=false) (hpau:d.paused=true) (hook:Bool):
 (d.beginResume hook).InOrder:=by
 have hcal:∀ u∈(d.beginResume hook).threads,u.resume=true →
   u.callbacks=d.buffer∧u.era=d.era:=by
  intro u hu hrs
  rcases mem_append.mp hu with hold | hnew
  · grind
  · cases mem_singleton.mp hnew
    rw[Thread.callbacks,if_neg (by simp),callbacks_batch]
    exact ⟨rfl,rfl⟩
 have hq:(d.beginResume hook).queue=d.queue:=by
  have hold:d.queue=d.buffer++liveOf false d.era d.threads:=by
   rw[Dispatcher.queue,liveOf_other true d.era hnone,nil_append]
  rw[hold]
  simp only[Dispatcher.queue,Dispatcher.beginResume,liveOf_append,liveOf_other true d.era hnone,
   liveOf_singleton,Thread.live,Thread.callbacks,callbacks_batch,if_true,reduceCtorEq,if_false,
   Bool.true_eq_false,nil_append,append_nil]
 refine ⟨?_,fun _ _ _ _=>hpau,fun _=>rfl,?_,?_,?_⟩
 · intro kind
   have hct:=h.single kind
   have hzero:d.threads.countP (fun t=>t.resume=true)=0:=countP_eq_zero.mpr fun t ht=>by simp[hnone t ht]
   rw[Dispatcher.beginResume,countP_append,countP_singleton]
   cases kind<;>simp_all
 · intro g hg hd
   refine ⟨rfl,fun u hu hrs _=>?_⟩
   rw[(hcal u hu hrs).1]
   rcases mem_append.mp hg with hold | hnew
   · exact (h.behind g hold hd).1
   all_goals grind
 · rw[hq]
   exact h.ordered
 · rw[hq]
   exact h.below

theorem buffer (h:d.InOrder) (hnone:∀ t∈d.threads,t.resume=true) (hpau:d.paused=true):
 ({d.accept with buffer:=d.buffer++[d.dispatched]}:Dispatcher).InOrder:=by
 have hdir:=liveOf_other false d.era hnone
 obtain ⟨hord,hbel⟩:=
  h.extend {d.accept with buffer:=d.buffer++[d.dispatched]}
   (by simp[Dispatcher.begun,Dispatcher.queue,Dispatcher.accept,hdir]) rfl
 refine ⟨h.single,h.current,fun hopen=>?_,fun g hg hd=>?_,hord,hbel⟩
 · exact absurd (hpau.symm.trans hopen) (by decide)
 · rw[hnone g hg] at hd
   cases hd

theorem deliver (h:d.InOrder) (hnone:∀ t∈d.threads,t.resume=true) (hopen:d.paused=false):
 ({d.accept with
   threads:=d.threads ++
    [{resume:=false,revision:=d.revision,era:=d.era,jobs:=[.callback d.dispatched]}]}:Dispatcher).InOrder:=by
 have hdir:=liveOf_other false d.era hnone
 have hidle:∀ t∈d.threads,t.resume=true→ t.era≠d.era:=by
  intro t ht hrs hcurr
  exact absurd (hopen.symm.trans (h.current t ht hrs hcurr)) (by decide)
 obtain ⟨hord,hbel⟩:=
  h.extend {d.accept with
   threads:=d.threads++[{resume:=false,revision:=d.revision,era:=d.era,jobs:=[.callback d.dispatched]}]}
   (by
    simp only[Dispatcher.begun,Dispatcher.queue,Dispatcher.accept,liveOf_append,hdir]
    simp[liveOf,Thread.live,Thread.callbacks,Job.callback?]) rfl
 have hold:∀ u∈d.threads++[{resume:=false,revision:=d.revision,era:=d.era,jobs:=[.callback d.dispatched]}],
   u.resume=true→ u∈d.threads:=by
  intro u hu hrs
  rcases mem_append.mp hu with hmem | hnew
  · exact hmem
  · grind
 refine ⟨?_,fun u hu hrs hcurr=>?_,h.empty,fun g hg hd=>⟨h.empty hopen,?_⟩,hord,hbel⟩
 · intro kind
   have hct:=h.single kind
   have hzero:d.threads.countP (fun t=>t.resume=false)=0:=countP_eq_zero.mpr fun t ht=>by simp[hnone t ht]
   grind
 · exact absurd hcurr (hidle u (hold u hu hrs) hrs)
 · intro u hu hrs hcurr
   exact absurd hcurr (hidle u (hold u hu hrs) hrs)

theorem moves (h:d.InOrder) (hexcl:d.Exclusive) (htra:d.Tracked) (hone:OneAtATime d event)
 (hmv:Moves d event d'):d'.InOrder:=by
 cases hmv with
 | pause=>exact ⟨h.single,fun _ _ _ _=>rfl,fun hopen=>absurd hopen (by simp),h.behind,h.ordered,h.below⟩
 | ignore=>exact h
 | refuse=>
  exact ⟨h.single,h.current,h.empty,h.behind,h.ordered,fun id hid=>Nat.lt_succ_of_lt (h.below id hid)⟩
 | reset=>exact h.outdated htra rfl rfl rfl rfl (Nat.le_refl _)
 | overflow=>exact h.outdated htra rfl rfl rfl rfl (Nat.le_succ _)
 | resume hpau=>exact h.resume hone hpau _
 | buffer hpau=>exact h.buffer hone hpau
 | deliver hopen=>exact h.deliver hone hopen
 | start hthr hph=>exact h.start hexcl hthr hph
 | @lock before after t hthr hfree hph=>
  have hcal:Thread.callbacks {t with phase:=.locked}=t.callbacks:=by simp[Thread.callbacks,hph]
  refine h.waited hthr [{t with phase:=.locked}] rfl ?_ (Nat.le_refl _) ?_ rfl rfl rfl rfl rfl
  · simp[hcal]
  · simp[Thread.live,hcal,hph]
 | @pass before after t hthr hph hcurr=>
  have hcal:Thread.callbacks {t with phase:=.checked}=t.callbacks:=by simp[Thread.callbacks,hph]
  refine h.waited hthr [{t with phase:=.checked}] rfl ?_ (Nat.le_refl _) ?_ rfl rfl rfl rfl rfl
  · simp[hcal]
  · rw[flatMap_singleton,Thread.live,if_pos hcurr,hcal,live_of_current hcurr]
 | @next before after t hthr hph=>
  have hcal:Thread.callbacks {t with jobs:=t.jobs.tail,phase:=.idle}=t.callbacks:=by
   simp[Thread.callbacks,hph]
  refine h.waited hthr [{t with jobs:=t.jobs.tail,phase:=.idle}] rfl ?_ (Nat.le_refl _) ?_ rfl rfl rfl
   rfl rfl
  · simp[hcal]
  · simp[Thread.live,hcal,hph]
 | fail hthr | last hthr | giveUp hthr=>
  exact h.waited hthr [] rfl (by simp) (Nat.zero_le _) (nil_sublist _) rfl rfl rfl rfl rfl
 | @unpause before after t hthr hrs hph hjobs hcurr hnil=>
  refine h.moved_resume hthr hrs [] rfl (by simp) (Nat.zero_le _) rfl rfl (by simp) (fun _=>hnil)
   (fun _ _=>⟨hnil,by simp⟩) ?_
  simp[Dispatcher.begun,hnil]
 | @refill before after t hthr hrs hph hjobs hcurr hfull=>
  refine h.moved_resume hthr hrs [{t with jobs:=d.buffer.map .callback}] rfl (by simpa using hrs)
   (Nat.le_refl _) rfl rfl (fun _=>rfl) (fun _=>rfl) (fun hnone=>absurd hnone hfull) ?_
  have hlive:Thread.live d.era {t with jobs:=d.buffer.map .callback}=d.buffer:=by
   rw[Thread.live,if_pos hcurr,Thread.callbacks,if_neg (by simp[hph]),filterMap_callbacks]
  rw[flatMap_singleton,hlive]
  simp[Dispatcher.begun]

end Dispatcher.InOrder

end Order

/-! ## The contract of the dispatcher -/

structure Dispatcher.Sound (d:Dispatcher):Prop where
 exclusive:d.Exclusive
 tracked:d.Tracked
 kept:d.Kept
 hooked:d.Hooked
 inOrder:d.InOrder

theorem sound_new (maxBuffer:ℕ):(newDispatcher maxBuffer).Sound where
 exclusive:=exclusive_new maxBuffer
 tracked:=tracked_new maxBuffer
 kept:=by simp[Dispatcher.Kept,newDispatcher]
 hooked:=⟨by simp[newDispatcher],by simp[newDispatcher],by simp[newDispatcher]⟩
 inOrder:=
  { single:=fun _=>Nat.zero_le _
    current:=by simp[newDispatcher]
    empty:=fun _=>rfl
    behind:=by simp[newDispatcher]
    ordered:=Pairwise.nil
    below:=by simp[newDispatcher,Dispatcher.begun,Dispatcher.queue,liveOf]}

theorem Dispatcher.Sound.moves {d d' : Dispatcher} {event : Event} (h : d.Sound)
    (hone : OneAtATime d event) (hmoves : Moves d event d') : d'.Sound where
  exclusive := h.exclusive.moves hmoves
  tracked := h.tracked.moves hmoves
  kept := h.kept.moves h.exclusive h.tracked hmoves
  hooked := h.hooked.moves h.exclusive h.tracked hmoves
  inOrder := h.inOrder.moves h.exclusive h.tracked hone hmoves

/-- What the dispatcher promises: callbacks start in the order of their dispatch, one at a time; a
callback admitted in this era has started or is held, and has started once all calls returned and the
dispatcher is open; the calls under way can return; and a hook starts before its batch. -/
structure Dispatcher.Contract (d : Dispatcher) : Prop where
  order : d.begun.Pairwise (· < ·)
  exclusive : d.started = d.finished ∨ ∃ job, d.started = d.finished ++ [job]
  kept : ∀ p ∈ d.admitted, p.2 = d.era → .callback p.1 ∈ d.started ∨ d.Holds p.1
  delivered : d.threads = [] → d.paused = false →
    ∀ p ∈ d.admitted, p.2 = d.era → .callback p.1 ∈ d.started
  returns : ∃ events e, (∀ event ∈ events, Event.internal event = true) ∧ run step d events = some e ∧
    e.threads = [] ∧ e.admitted = d.admitted ∧ e.era = d.era
  hooks : ∀ b ∈ d.batches, ∀ id ∈ b.2, HookFirst b.1 id d.started

theorem Dispatcher.Exclusive.one_runs {d:Dispatcher} (h:d.Exclusive):
 d.started=d.finished∨∃ job,d.started=d.finished++[job]:=by
 by_cases hidle:∀ t∈d.threads,t.delivers=false
 · refine .inl ?_
   rw[h.history,flatMap_eq_nil_iff.mpr fun t ht=>runs_of_idle (hidle t ht),append_nil]
 · push Not at hidle
   obtain ⟨t,ht,hdel⟩:=hidle
   obtain ⟨before,after,hthr⟩:=append_of_mem ht
   have hhol:t.delivers=true:=by simpa using hdel
   obtain ⟨hbef,haf⟩:=h.runs_others hthr hhol
   have hhis:=h.history
   rw[hthr,flatMap_append,flatMap_cons,hbef,haf,nil_append,append_nil] at hhis
   obtain ⟨job,rest,hjobs⟩:=exists_cons_of_ne_nil (h.jobs t ht hhol)
   grind [Thread.runs]

/-- As long as the revision does not wrap, a dispatcher with one ingress thread and one `Resume` at a
time keeps its contract. -/
theorem dispatch_contract {maxBuffer : ℕ} {events : List Event} {d : Dispatcher}
    (hone : Along step OneAtATime (newDispatcher maxBuffer) events)
    (hrun : run step (newDispatcher maxBuffer) events = some d) (hera : d.era < UInt64.size) :
    d.Contract := by
  obtain ⟨h, hnum⟩ := invariant_of_moves Dispatcher.Sound (fun _ _ _ h hok hmoves => h.moves hok hmoves)
    (numbered_new maxBuffer) (sound_new maxBuffer) hone hrun hera
  have hkept : ∀ p ∈ d.admitted, p.2 = d.era → .callback p.1 ∈ d.started ∨ d.Holds p.1 :=
    fun p hp hcurrent => (h.kept p hp hcurrent).imp_left mem_begun.mp
  refine ⟨(pairwise_append.mp h.inOrder.ordered).1, h.exclusive.one_runs, hkept, ?_, ?_, h.hooked.started⟩
  · intro hquiet hopen p hp hcurrent
    rcases hkept p hp hcurrent with hstarted | hbuffer | ⟨t, ht, -⟩
    · exact hstarted
    · rw [h.inOrder.empty hopen] at hbuffer
      cases hbuffer
    · grind
  · obtain ⟨returns, e, hint, hreturns, -, ⟨hadmitted, hsame⟩, hquiet⟩ :=
      calls_return (fun e : Dispatcher => e.admitted = d.admitted ∧ e.era = d.era)
        (fun _ _ _ hinv hint hmoves => ⟨(internal_frame hint hmoves).1.trans hinv.1,
          (internal_frame hint hmoves).2.trans hinv.2⟩)
        h.exclusive hnum hera ⟨rfl, rfl⟩
    grind

def recovered:List Event:=
 [.dispatch,.lock 0,.check 0,.start 0,.finish 0,.pause,.dispatch,.dispatch,.resume true,.lock 0,.check 0,
  .start 0,.dispatch,.finish 0,.lock 0,.check 0,.start 0,.finish 0,.lock 0,.check 0,.start 0,.finish 0,
  .settle 0,.lock 0,.check 0,.start 0]

theorem dispatch_contract_recovered :
 ∃ d,run step (newDispatcher 1024) recovered=some d∧
  d.started=[.callback 0,.hook 0,.callback 1,.callback 2,.callback 3]∧d.Contract:=
 ⟨_,rfl,rfl,dispatch_contract (show Along step OneAtATime (newDispatcher 1024) recovered by decide) rfl
  (by decide)⟩

/-- A `Resume` stops before its callback, resets follow until the revision is that of the `Resume`
again, and another callback is dispatched before the `Resume` goes on. -/
def wrapping : List Event :=
  [.pause, .dispatch, .resume false] ++ (replicate (UInt64.size - 1 + 1) .reset ++
    [.dispatch, .lock 1, .check 1, .start 1, .finish 1, .lock 0, .check 0, .start 0])

theorem oneAtATime_of_quiet {d : Dispatcher} {events : List Event}
    (h : ∀ event ∈ events, event = .reset ∨ event.internal = true) : Along step OneAtATime d events :=
  along_of_invariant (fun _ => True) (fun _ _ _ _ _ _ => trivial)
    (fun d event _ hquiet => by
      rcases hquiet with rfl | hint
      · trivial
      · cases event <;> trivial)
    trivial (along_of_forall h d)

theorem late_callback_after_wrap : Along step OneAtATime (newDispatcher 1024) wrapping ∧
    ∃ d, run step (newDispatcher 1024) wrapping = some d ∧ d.begun = [1, 0] ∧ ¬ d.Contract := by
  have hresets := run_resets {newDispatcher 1024 with
    paused := true, dispatched := 1, resumed := 1, admitted := [(0, 0)],
    threads := [⟨true, 0, 0, [.callback 0], .idle⟩]} (UInt64.size - 1)
  constructor
  · refine along_append.mpr ⟨by decide, fun s hs => ?_⟩
    cases hs
    refine along_append.mpr ⟨oneAtATime_of_quiet fun e he => .inl (eq_of_mem_replicate he), fun s hs => ?_⟩
    cases hresets.symm.trans hs
    exact ⟨by decide, fun _ _ => oneAtATime_of_quiet (by decide)⟩
  · refine ⟨_, run_append_eq_some.mpr ⟨_, rfl, run_append_eq_some.mpr ⟨_, hresets, rfl⟩⟩, rfl, ?_⟩
    intro hcontract
    exact absurd hcontract.order (by decide)

end BolterTrader.WsDispatch
