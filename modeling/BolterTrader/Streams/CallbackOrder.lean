import BolterTrader.Streams.CallbackDispatch

/-! The order of the data callbacks among themselves and around the gaps of the connection,
for every interleaving of the operations of the callback dispatchers. -/
namespace BolterTrader.CallbackDispatch
open Foundations Transition List

/-! ## The order of the queue -/

def Follows {κ δ:Type} (callback later:Callback κ δ):Prop:=
 (callback.isStarted=true→ later.isRecovered=true)∧(callback.isRecovered=true→ later.isStarted=false)

def NewGap {κ δ:Type} (d:Dispatcher κ δ):Event κ δ→Prop
 | .beginGap generation=>generation∉d.used
 | _=>True

instance {κ δ:Type} (d:Dispatcher κ δ):∀ event,Decidable (NewGap d event)
 | .beginGap generation=>inferInstanceAs (Decidable (generation∉d.used))
 | .activateConnection _ _ _ | .enqueueData _ _ | .discardReplacement _ _ | .enqueueRecovered _ _ | .reset | .stop
 | .signal | .wake | .take | .finish=>.isTrue trivial

structure QueueOrder {κ δ:Type} (d:Dispatcher κ δ):Prop where
 order:d.queue.Pairwise Follows
 closed:d.gapOpen=false→ hasStarted d.queue=false
 opened:d.gapOpen=true→ hasStarted d.queue=false→ dataOf d.queue=[]
 marked:d.gapOpen=true→ hasStarted d.queue=false →
  ∃ before generation after,d.delivered=before++.started generation::after∧dataOf after=[]
 recovering:∀ generation conn,d.worker=.running (.recovered generation conn) →
  generation∈d.used∧(d.gapOpen=true→ d.generation=generation→ hasStarted d.queue=false)
 named:d.gapOpen=true→ d.generation∈d.used

section
variable {κ δ:Type} {d:Dispatcher κ δ} {queue:List (Callback κ δ)}

theorem pairwise_withoutRecovered (h:queue.Pairwise Follows):(withoutRecovered queue).Pairwise Follows:=
 h.filter _

theorem isRecovered_of_mem_withoutRecovered {callback:Callback κ δ} (h:callback∈withoutRecovered queue):
 callback.isRecovered=false:=by
 simpa using (mem_filter.mp h).2

theorem pairwise_append_data (h:queue.Pairwise Follows) (hnone:hasStarted queue=false)
 (entries:List (Data κ δ)):(queue++entries.map Callback.data).Pairwise Follows:=by
 refine pairwise_append.mpr ⟨h,?_,?_⟩
 · refine pairwise_map.mpr (pairwise_of_forall fun _ _=>?_)
   exact ⟨nofun,fun _=>rfl⟩
 · intro callback hcal later hlat
   obtain ⟨entry,-,rfl⟩:=mem_map.mp hlat
   have hoth:=hasStarted_eq_false.mp hnone callback hcal
   exact ⟨fun hstd=>(Bool.eq_false_iff.mp hoth hstd).elim,fun _=>rfl⟩

theorem pairwise_append_started (h:queue.Pairwise Follows) (hnone:hasStarted queue=false) (generation:ℕ):
 (withoutRecovered queue++[Callback.started generation]).Pairwise Follows:=by
 refine pairwise_append.mpr ⟨pairwise_withoutRecovered h,pairwise_singleton _ _,?_⟩
 intro callback hcal later _
 have hrec:=isRecovered_of_mem_withoutRecovered hcal
 have hstd:=hasStarted_eq_false.mp hnone callback (mem_filter.mp hcal).1
 refine ⟨fun hyes=>?_,fun hyes=>?_⟩
 all_goals grind

theorem pairwise_append_recovered (h:queue.Pairwise Follows) (generation:ℕ) (conn:κ):
 (withoutRecovered queue++[Callback.recovered generation conn]).Pairwise Follows:=by
 refine pairwise_append.mpr ⟨pairwise_withoutRecovered h,pairwise_singleton _ _,?_⟩
 intro callback _ later hlat
 cases mem_singleton.mp hlat
 exact ⟨fun _=>rfl,fun _=>rfl⟩

theorem dataOf_behind_started {generation:ℕ} {rest:List (Callback κ δ)}
 (h:(Callback.started generation::rest).Pairwise Follows):dataOf rest=[]∧hasStarted rest=false:=by
 have hrest:=(pairwise_cons.mp h).1
 constructor
 · refine eq_nil_iff_forall_not_mem.mpr fun entry hen=>?_
   have hrec:=(hrest _ (mem_dataOf.mp hen)).1 rfl
   cases hrec
 · refine hasStarted_eq_false.mpr fun callback hcal=>?_
   have hrec:=(hrest callback hcal).1 rfl
   cases callback with
   | data | started=>cases hrec
   | recovered=>rfl

namespace QueueOrder

theorem withdraw (h:QueueOrder d) (next:Dispatcher κ δ) (hq:next.queue=withoutRecovered d.queue)
 (hgap:next.gapOpen=d.gapOpen) (hgen:next.generation=d.generation)
 (hdl:next.delivered=d.delivered) (hwk:next.worker=d.worker) (hused:next.used=d.used):
 QueueOrder next:=by
 obtain ⟨hord,hcl,hope,hmar,hrec,hnam⟩:=h
 constructor
 · rw[hq]
   exact pairwise_withoutRecovered hord
 · rw[hq,hgap,hasStarted_withoutRecovered]
   exact hcl
 · rw[hq,hgap,hasStarted_withoutRecovered,dataOf_withoutRecovered]
   exact hope
 · rw[hq,hgap,hasStarted_withoutRecovered,hdl]
   exact hmar
 · rw[hq,hgap,hasStarted_withoutRecovered,hwk,hgen,hused]
   exact hrec
 · grind

theorem openGap (h:QueueOrder d) {generation:ℕ} (hnew:generation∉d.used):
 QueueOrder (d.openGap generation):=by
 have hrec (generation':ℕ) (conn:κ) (hwk:d.worker=.running (.recovered generation' conn)):
   generation'∈d.used++[generation]∧(true=true→ generation=generation' →
    hasStarted (d.openGap generation).queue=false):=by
  have hused:=(h.recovering generation' conn hwk).1
  refine ⟨mem_append_left _ hused,fun _ heq=>?_⟩
  exact (hnew (heq▸hused)).elim
 have hnam:generation∈d.used++[generation]:=mem_append_right _ (mem_singleton_self generation)
 by_cases hnee:d.NeedsStarted
 · have hq:(d.openGap generation).queue=withoutRecovered d.queue++[.started generation]:=if_pos hnee
   have hstd:hasStarted (d.openGap generation).queue=true:=by
    rw[hq,hasStarted_append]
    simp[Callback.isStarted]
   refine ⟨?_,nofun,fun _ hno=>?_,fun _ hno=>?_,hrec,fun _=>hnam⟩
   · rw[hq]
     exact pairwise_append_started h.order hnee.2 generation
   all_goals grind
 · have hq:(d.openGap generation).queue=withoutRecovered d.queue:=if_neg hnee
   -- without a new `Started`, either one is queued or the gap was open
   have hopen (hno:hasStarted d.queue=false):d.gapOpen=true:=by
    grind [Dispatcher.NeedsStarted]
   refine ⟨?_,nofun,fun _ hno=>?_,fun _ hno=>?_,hrec,fun _=>hnam⟩
   · rw[hq]
     exact pairwise_withoutRecovered h.order
   · rw[hq,hasStarted_withoutRecovered] at hno
     rw[hq,dataOf_withoutRecovered]
     exact h.opened (hopen hno) hno
   · rw[hq,hasStarted_withoutRecovered] at hno
     exact h.marked (hopen hno) hno

theorem deliver (h:QueueOrder d) {callback:Callback κ δ} {rest:List (Callback κ δ)}
 (hq:d.queue=callback::rest)
 (hcurr:∀ generation conn,callback=.recovered generation conn→ d.RecoveredIsCurrent generation conn):
 QueueOrder (d.deliver callback rest):=by
 obtain ⟨hord,hcl,hope,hmar,-,hnam⟩:=h
 rw[hq] at hord hcl hope hmar
 have htail:=(pairwise_cons.mp hord).2
 cases callback with
 | data entry=>
  have hsame:hasStarted (.data entry::rest)=hasStarted rest:=rfl
  rw[hsame] at hcl hope
  refine ⟨htail,hcl,fun hgap hno=>?_,fun hgap hno=>?_,nofun,hnam⟩
  · cases hope hgap hno
  · cases hope hgap hno
 | started generation=>
  have hbeh:=dataOf_behind_started hord
  refine ⟨htail,fun _=>hbeh.2,fun _ _=>hbeh.1,fun _ _=>?_,nofun,hnam⟩
  exact ⟨d.delivered,generation,[],rfl,rfl⟩
 | recovered generation conn=>
  have hno:hasStarted rest=false:=
   hasStarted_eq_false.mpr fun later hlat=>((pairwise_cons.mp hord).1 later hlat).2 rfl
  obtain ⟨hgap,hgen,-,-⟩:=hcurr generation conn rfl
  have hsame:hasStarted (.recovered generation conn::rest)=false:=hno
  refine ⟨htail,fun _=>hno,fun hgap _=>hope hgap hsame,fun hgap _=>?_,?_,hnam⟩
  · obtain ⟨before,generation',after,hdl,haf⟩:=hmar hgap hsame
    refine ⟨before,generation',after++[.recovered generation conn],?_,?_⟩
    · show d.delivered++[_]=_
      rw[hdl]
      simp
    · simp[haf]
  · intro generation' conn' hwk
    cases hwk
    exact ⟨hgen▸hnam hgap,fun _ _=>hno⟩

end QueueOrder

theorem queueOrder_empty (limit:ℕ):QueueOrder ({limit}:Dispatcher κ δ) where
 order:=Pairwise.nil
 closed:=fun _=>rfl
 opened:=nofun
 marked:=nofun
 recovering:=nofun
 named:=nofun

end

section
variable {κ δ:Type} [DecidableEq κ] {d next:Dispatcher κ δ} {event:Event κ δ}

namespace QueueOrder

theorem of_step (h:QueueOrder d) (hnew:NewGap d event) (hstep:step d event=some next):QueueOrder next:=by
 cases moves_of_step hstep with
 | ignored=>exact h
 | activated | held | left | signalled=>exact ⟨h.order,h.closed,h.opened,h.marked,h.recovering,h.named⟩
 | replaced | discarded=>exact h.withdraw _ rfl rfl rfl rfl rfl rfl
 | appended conn payloads hcl=>
  have hno:=h.closed hcl
  have hno':hasStarted (d.append conn payloads).queue=false:=by
   show hasStarted (d.queue++_)=false
   rw[hasStarted_append,hno,hasStarted_map_data,Bool.or_false]
  refine ⟨pairwise_append_data h.order hno _,fun _=>hno',?_,?_,?_,h.named⟩
  · intro hopen
    cases hcl.symm.trans hopen
  · intro hopen
    cases hcl.symm.trans hopen
  · intro generation conn' hwk
    exact ⟨(h.recovering generation conn' hwk).1,fun _ _=>hno'⟩
 | gapBegun=>exact h.openGap hnew
 | recovered generation conn=>
  have hstd:hasStarted (d.queueRecovered generation conn).queue=hasStarted d.queue:=by
   show hasStarted (withoutRecovered d.queue++[_])=_
   rw[hasStarted_append,hasStarted_withoutRecovered]
   exact Bool.or_false _
  have hdata:dataOf (d.queueRecovered generation conn).queue=dataOf d.queue:=by
   show dataOf (withoutRecovered d.queue++[_])=_
   simp
  constructor
  · exact pairwise_append_recovered h.order generation conn
  · rw[hstd]
    exact h.closed
  · rw[hstd,hdata]
    exact h.opened
  · rw[hstd]
    exact h.marked
  · rw[hstd]
    exact h.recovering
  · exact h.named
 | reset | stopped=>
  refine ⟨Pairwise.nil,fun _=>rfl,nofun,nofun,fun generation conn hwk=>?_,nofun⟩
  exact ⟨(h.recovering generation conn hwk).1,nofun⟩
 | woken | ended | rested | returned=>exact ⟨h.order,h.closed,h.opened,h.marked,nofun,h.named⟩
 | skipped generation conn rest hwk hq=>
  obtain ⟨hord,hcl,hope,hmar,-,hnam⟩:=h
  rw[hq] at hord hcl hope hmar
  refine ⟨(pairwise_cons.mp hord).2,hcl,hope,hmar,fun generation' conn' hrn=>?_,hnam⟩
  cases hwk.symm.trans hrn
 | delivered callback rest hwk hq hcurr=>exact h.deliver hq hcurr
 | closed generation conn hwk hcurr=>
  have hno:=(h.recovering generation conn hwk).2 hcurr.1 hcurr.2.1
  refine ⟨pairwise_append_data h.order hno _,fun _=>?_,nofun,nofun,nofun,nofun⟩
  show hasStarted (d.queue++_)=false
  rw[hasStarted_append,hno,hasStarted_map_data,Bool.or_false]

end QueueOrder

variable {events:List (Event κ δ)}

theorem queueOrder_of_run {limit:ℕ} (hnew:Along step NewGap ({limit}:Dispatcher κ δ) events)
 (hrun:run step ({limit}:Dispatcher κ δ) events=some d):QueueOrder d:=
 invariant_along QueueOrder (fun _ _ _ h hnew hstep=>h.of_step hnew hstep) (queueOrder_empty limit) hnew hrun

/-! ## What the accounts can do in a step -/

omit [DecidableEq κ] in
theorem deliver_ledger (callback:Callback κ δ) (rest:List (Callback κ δ)):
 (d.deliver callback rest).ledger.accepted=d.ledger.accepted∧
  (d.deliver callback rest).ledger.dropped=d.ledger.dropped:=by
 cases callback<;>exact ⟨rfl,rfl⟩

theorem delivered_of_step (hstep:step d event=some next):
 next.delivered=d.delivered∨
  ∃ callback rest,d.queue=callback::rest∧next.delivered=d.delivered++[callback]:=by
 cases moves_of_step hstep with
 | delivered callback rest hwk hq=>exact .inr ⟨callback,rest,hq,rfl⟩
 | _=>exact .inl rfl

theorem accepted_subset_of_step (hstep:step d event=some next):d.ledger.accepted ⊆ next.ledger.accepted:=by
 cases moves_of_step hstep with
 | held | appended=>exact subset_append_left _ _
 | delivered callback rest=>
  rw[(deliver_ledger callback rest).1]
  exact Subset.refl _
 | _=>exact Subset.refl _

theorem dropped_subset_of_step (hstep:step d event=some next):d.ledger.dropped ⊆ next.ledger.dropped:=by
 cases moves_of_step hstep with
 | replaced | gapBegun | discarded | reset | stopped=>exact subset_append_left _ _
 | delivered callback rest=>
  rw[(deliver_ledger callback rest).2]
  exact Subset.refl _
 | _=>exact Subset.refl _

def Drops (d:Dispatcher κ δ):Event κ δ→Prop
 | .beginGap _ | .discardReplacement _ _ | .reset | .stop=>True
 | .activateConnection _ conn _=>∃ other,d.replacementConn=some other∧other≠conn
 | _=>False

theorem dropped_of_step (h:Accounts d) (hstep:step d event=some next):
 next.ledger.dropped=d.ledger.dropped∨Drops d event:=by
 cases moves_of_step hstep with
 | gapBegun | discarded | reset | stopped=>exact .inr trivial
 | replaced generation conn hopen hgen hoth=>
  cases hrep : d.replacement with
  | nil=>
   refine .inl ?_
   show d.ledger.dropped++d.replacement=d.ledger.dropped
   rw[hrep,append_nil]
  | cons entry=>
   have hsk:=h.sockets entry (hrep▸mem_cons_self)
   refine .inr ⟨entry.conn,hsk,fun heq=>hoth ?_⟩
   rw[hsk,heq]
 | delivered callback rest=>exact .inl (deliver_ledger callback rest).2
 | _=>exact .inl rfl

variable {entry:Data κ δ}

theorem Accounts.notMem_delivered_of_dropped (h:Accounts d) (hen:entry∈d.ledger.dropped)
 (hrun:run step d events=some next):.data entry∉next.delivered:=by
 have hdro:entry∈next.ledger.dropped:=
  invariant (fun d=>entry∈d.ledger.dropped) (fun _ _ _ hmem hstep=>dropped_subset_of_step hstep hmem) hen hrun
 have hnext:Accounts next:=invariant Accounts (fun _ _ _ h hstep=>h.of_step hstep) h hrun
 rw[←mem_dataOf,hnext.delivered]
 exact (hnext.balanced.notMem_of_dropped hnext.nodup hdro).1

/-! ## Data before a gap -/

structure Later (mark:ℕ) (d:Dispatcher κ δ):Prop where
 length:mark≤d.ledger.accepted.length
 replacement:∀ entry∈d.replacement,mark≤entry.serial

theorem Later.of_step {mark:ℕ} (h:Later mark d) (hstep:step d event=some next):Later mark next:=by
 cases moves_of_step hstep with
 | held conn payloads=>
  constructor
  · show mark≤(d.ledger.accepted++_).length
    have hlen:=h.length
    rw[length_append]
    omega
  · intro entry hen
    obtain hold | hnew:=mem_append.mp hen
    · exact h.replacement entry hold
    · exact h.length.trans (le_serial_of_mem_number hnew)
 | appended conn payloads=>
  refine ⟨?_,h.replacement⟩
  show mark≤(d.ledger.accepted++_).length
  have hlen:=h.length
  rw[length_append]
  omega
 | replaced | gapBegun | discarded | reset | stopped | closed=>exact ⟨h.length,nofun⟩
 | delivered callback rest=>
  refine ⟨?_,h.replacement⟩
  rw[(deliver_ledger callback rest).1]
  exact h.length
 | _=>exact ⟨h.length,h.replacement⟩

omit [DecidableEq κ] in
theorem later_beginGap (h:d.stopped=false) (generation:ℕ):
 Later d.ledger.accepted.length (d.beginGap generation):=by
 rw[Dispatcher.beginGap,if_neg (by simp[h])]
 exact ⟨le_rfl,nofun⟩

omit [DecidableEq κ] in
theorem Accounts.settled {mark generation:ℕ} {rest:List (Callback κ δ)} {entry:Data κ δ} (h:Accounts d)
 (hord:QueueOrder d) (hlat:Later mark d) (hq:d.queue=.started generation::rest)
 (hen:entry∈d.ledger.accepted) (hser:entry.serial< mark):
 .data entry∈d.delivered∨entry∈d.ledger.dropped:=by
 have hbeh:=hord.order
 rw[hq] at hbeh
 have hnil:dataOf d.queue=[]:=by
  rw[hq]
  exact (dataOf_behind_started hbeh).1
 obtain hran | hwai | hdro:=h.balanced.mem_cases hen
 · rw[←h.delivered] at hran
   exact .inl (mem_dataOf.mp hran)
 · rw[hnil,nil_append] at hwai
   have hmark:=hlat.replacement entry hwai
   omega
 · exact .inr hdro

/-! ## Data of a replacement socket -/

theorem Accounts.leaves_replacement (h:Accounts d) (hen:entry∈d.replacement) (hstep:step d event=some next):
 (entry∈next.replacement∧next.generation=d.generation)∨
  (event=.finish∧d.worker=.running (.recovered d.generation entry.conn))∨entry∈next.ledger.dropped:=by
 cases moves_of_step hstep with
 | held=>exact .inl ⟨mem_append_left _ hen,rfl⟩
 | replaced | gapBegun | discarded=>exact .inr (.inr (mem_append_right _ hen))
 | reset | stopped=>exact .inr (.inr (mem_append_right _ (mem_append_right _ hen)))
 | closed generation conn hwk hcurr=>
  obtain ⟨-,rfl,-,hconn⟩:=hcurr
  cases hconn.symm.trans (h.sockets entry hen)
  exact .inr (.inl ⟨rfl,hwk⟩)
 | _=>exact .inl ⟨hen,rfl⟩

omit [DecidableEq κ] in
theorem Accounts.notMem_of_replacement (h:Accounts d) (hen:entry∈d.replacement):
 .data entry∉d.queue∧.data entry∉d.delivered:=by
 have hall:=h.balanced.inOrder.nodup h.nodup
 obtain ⟨-,hwt,hdis⟩:=nodup_append.mp hall
 refine ⟨fun hq=>?_,fun hdl=>?_⟩
 · exact (nodup_append.mp hwt).2.2 entry (mem_dataOf.mpr hq) entry hen rfl
 · rw[←mem_dataOf,h.delivered] at hdl
   grind

theorem Accounts.run_after_recovered {last:Dispatcher κ δ} {after:List (Event κ δ)} (h:Accounts d)
 (hen:entry∈d.replacement) (hrun:run step d after=some last) (hdl : .data entry∈last.delivered):
 ∃ mid between rest,after=mid++.finish::rest∧run step d mid=some between∧
  between.worker=.running (.recovered d.generation entry.conn):=by
 induction after generalizing d with
 | nil=>
  cases hrun
  exact absurd hdl (h.notMem_of_replacement hen).2
 | cons event rest ih=>
  obtain ⟨next,hstep,hrest⟩:=run_cons_eq_some.mp hrun
  obtain ⟨hsta,hgen⟩ | ⟨rfl,hwk⟩ | hdro:=h.leaves_replacement hen hstep
  · obtain ⟨mid,between,tail,rfl,hmid,hwk⟩:=ih (h.of_step hstep) hsta hrest
    rw[hgen] at hwk
    exact ⟨event::mid,between,tail,rfl,(run_cons_of_step hstep mid).trans hmid,hwk⟩
  · exact ⟨[],d,rest,rfl,rfl,hwk⟩
  · exact absurd hdl ((h.of_step hstep).notMem_delivered_of_dropped hdro hrest)

theorem mem_replacement_of_accepted {conn:κ} {payloads:List δ} (hopen:d.gapOpen=true)
 (hnew:entry∈(d.enqueueData conn payloads).1.ledger.accepted) (hold:entry∉d.ledger.accepted):
 entry∈(d.enqueueData conn payloads).1.replacement∧entry.conn=conn∧
  (d.enqueueData conn payloads).1.generation=d.generation:=by
 generalize hnext : (d.enqueueData conn payloads).1=next at hnew ⊢
 have hstep:step d (.enqueueData conn payloads)=some next:=congrArg some hnext
 cases moves_of_step hstep with
 | ignored=>exact absurd hnew hold
 | held=>
  obtain hmem | hmem:=mem_append.mp hnew
  · exact absurd hmem hold
  · exact ⟨mem_append_right _ hmem,conn_of_mem_number hmem,rfl⟩
 | appended _ _ hcl=>cases hcl.symm.trans hopen

/-! ## Progress -/

structure Awake (d:Dispatcher κ δ):Prop where
 wake:d.queue≠[]→ d.worker=.idle→ d.wake=true∨0<d.signals
 ended:d.worker=.ended→ d.stopped=true

omit [DecidableEq κ] in
theorem withoutRecovered_ne_nil {queue:List (Callback κ δ)} (h:withoutRecovered queue≠[]):queue≠[]:=by
 rintro rfl
 exact h rfl

theorem Awake.of_step (h:Awake d) (hstep:step d event=some next):Awake next:=by
 have hsig (n:ℕ):0<n+1:=Nat.succ_pos n
 cases moves_of_step hstep with
 | ignored=>exact h
 | activated | held | left=>exact ⟨h.wake,h.ended⟩
 | replaced | discarded=>exact ⟨fun hq=>h.wake (withoutRecovered_ne_nil hq),h.ended⟩
 | appended | gapBegun | recovered | reset=>exact ⟨fun _ _=>.inr (hsig _),h.ended⟩
 | stopped=>exact ⟨fun _ _=>.inr (hsig _),fun _=>rfl⟩
 | signalled=>exact ⟨fun _ _=>.inl rfl,h.ended⟩
 | woken | closed | returned | delivered=>exact ⟨fun _=>nofun,nofun⟩
 | ended hwk hsto=>exact ⟨fun _=>nofun,fun _=>hsto⟩
 | rested hwk hq=>exact ⟨fun hne=>absurd hq hne,nofun⟩
 | skipped generation conn rest hwk=>
  refine ⟨fun _ hidle=>?_,fun hend=>?_⟩
  all_goals grind

theorem awake_of_run {limit:ℕ} (hrun:run step ({limit}:Dispatcher κ δ) events=some d):Awake d:=
 invariant Awake (fun _ _ _ h hstep=>h.of_step hstep) ⟨fun h=>absurd rfl h,fun h=>by cases h⟩ hrun

structure Works (start d:Dispatcher κ δ):Prop where
 accounts:Accounts d
 awake:Awake d
 going:d.stopped=false
 accepted:d.ledger.accepted=start.ledger.accepted
 dropped:d.ledger.dropped=start.ledger.dropped
 replacement:d.replacement ⊆ start.replacement

theorem Works.of_step {start:Dispatcher κ δ} (h:Works start d) (hstep:step d event=some next)
 (hwork:IsWork event):Works start next:=by
 have hacc:=h.accounts.of_step hstep
 have hawa:=h.awake.of_step hstep
 cases moves_of_step hstep with
 | ignored _ hcal=>exact absurd hwork hcal
 | delivered callback rest=>
  have hled:=deliver_ledger (d:=d) callback rest
  exact ⟨hacc,hawa,h.going,hled.1.trans h.accepted,hled.2.trans h.dropped,h.replacement⟩
 | closed=>exact ⟨hacc,hawa,h.going,h.accepted,h.dropped,nil_subset _⟩
 | signalled | woken | ended | rested | skipped | returned=>
  exact ⟨hacc,hawa,h.going,h.accepted,h.dropped,h.replacement⟩
 | activated | replaced | held | appended | gapBegun | left | discarded | recovered | reset | stopped=>exact hwork.elim

def Worker.weight (wake:Bool):Worker κ δ→ℕ
 | .idle=>if wake then 3 else 4
 | .looping=>2
 | .running _=>3
 | .ended=>0

def Dispatcher.work (d:Dispatcher κ δ):ℕ:=4*(d.queue.length+d.replacement.length)+d.worker.weight d.wake

theorem take_work (hgoi:d.stopped=false) (hwk:d.worker=.looping) (hq:d.queue≠[]):
 d.take.work<d.work:=by
 have hstep:step d .take=some d.take:=by simp only[step,hwk]
 generalize d.take=next at hstep
 cases moves_of_step hstep with
 | ignored _ hcal=>exact absurd trivial hcal
 | ended _ hsto=>cases hgoi.symm.trans hsto
 | rested _ hnil=>exact absurd hnil hq
 | skipped generation conn rest _ hq=>
  simp only[Dispatcher.work,hq,hwk,length_cons,Worker.weight]
  omega
 | delivered callback rest _ hq=>
  simp only[Dispatcher.work,Dispatcher.deliver,hq,hwk,length_cons,Worker.weight]
  omega

theorem finish_work {callback:Callback κ δ} (hwk:d.worker=.running callback):
 (d.finish callback).work<d.work:=by
 unfold Dispatcher.finish
 split
 all_goals grind [Dispatcher.work,Dispatcher.closeGap,Worker.weight]

theorem Works.progress {start:Dispatcher κ δ} (h:Works start d) (hq:¬ d.queue=[]):
 ∃ event next,IsWork event∧step d event=some next∧Works start next∧next.work<d.work:=by
 cases hwk : d.worker with
 | idle=>
  cases hwake : d.wake with
  | true=>
   have hstep:step d .wake=some {d with wake:=false,worker:=.looping}:=by
    simp only[step,hwk,hwake]
   refine ⟨.wake,_,trivial,hstep,h.of_step hstep trivial,?_⟩
   simp[Dispatcher.work,hwk,hwake,Worker.weight]
  | false=>
   obtain hyes | hsig:=h.awake.wake hq hwk
   · cases hwake.symm.trans hyes
   · have hstep:step d .signal=some {d with signals:=d.signals-1,wake:=true}:=if_pos hsig
     refine ⟨.signal,_,trivial,hstep,h.of_step hstep trivial,?_⟩
     simp[Dispatcher.work,hwk,hwake,Worker.weight]
 | looping=>
  have hstep:step d .take=some d.take:=by simp only[step,hwk]
  exact ⟨.take,d.take,trivial,hstep,h.of_step hstep trivial,take_work h.going hwk hq⟩
 | running callback=>
  have hstep:step d .finish=some (d.finish callback):=by simp only[step,hwk]
  exact ⟨.finish,d.finish callback,trivial,hstep,h.of_step hstep trivial,finish_work hwk⟩
 | ended=>cases h.going.symm.trans (h.awake.ended hwk)

omit [DecidableEq κ] in
theorem Works.delivered {start:Dispatcher κ δ} (h:Works start d) (hstrt:Accounts start) (hnil:d.queue=[])
 (hen : .data entry∈start.queue):.data entry∈d.delivered:=by
 have hque:entry∈dataOf start.queue++start.replacement:=mem_append_left _ (mem_dataOf.mpr hen)
 have hacc:entry∈start.ledger.accepted:=hstrt.balanced.inOrder.subset (mem_append_right _ hque)
 rw[←h.accepted] at hacc
 obtain hran | hwai | hdro:=h.accounts.balanced.mem_cases hacc
 · rw[←h.accounts.delivered] at hran
   exact mem_dataOf.mp hran
 · rw[hnil,dataOf_nil,nil_append] at hwai
   exact absurd hen (hstrt.notMem_of_replacement (h.replacement hwai)).1
 · rw[h.dropped] at hdro
   exact absurd hque (hstrt.balanced.notMem_of_dropped hstrt.nodup hdro).2

theorem works_off {limit:ℕ} (hrun:run step ({limit}:Dispatcher κ δ) events=some d)
 (hgoi:d.stopped=false):
 ∃ work last,(∀ event∈work,IsWork event)∧run step d work=some last∧last.queue=[]∧
  ∀ entry,.data entry∈d.queue → .data entry∈last.delivered:=by
 have hacc:=accounts_of_run hrun
 have hstrt:Works d d:=⟨hacc,awake_of_run hrun,hgoi,rfl,rfl,Subset.refl _⟩
 obtain ⟨work,last,hwork,hlast,hwor,hnil⟩:=
  exists_run_of_progress (Works d) (·.queue=[]) IsWork Dispatcher.work
   (fun _ h hq=>h.progress hq) hstrt
 exact ⟨work,last,hwork,hlast,hnil,fun entry hen=>hwor.delivered hacc hnil hen⟩

/-! ## Every interleaving -/

/-- How callbacks are served along every run. -/
structure ServesData (κ δ:Type) [DecidableEq κ] (limit:ℕ):Prop where
 inOrder:∀ (events:List (Event κ δ)) d,run step {limit} events=some d →
  (dataOf d.delivered).Sublist d.ledger.accepted
 once:∀ (events:List (Event κ δ)) d,run step {limit} events=some d→ d.ledger.accepted.Nodup∧
  (dataOf d.delivered++(dataOf d.queue++d.replacement)++d.ledger.dropped).Perm d.ledger.accepted
 dropped:∀ (events:List (Event κ δ)) d event next,run step {limit} events=some d →
  step d event=some next→ next.ledger.dropped=d.ledger.dropped∨Drops d event
 runs:∀ (events:List (Event κ δ)) d,run step {limit} events=some d→ d.stopped=false →
  ∃ work last,(∀ event∈work,IsWork event)∧run step d work=some last∧last.queue=[]∧
   ∀ entry,.data entry∈d.queue → .data entry∈last.delivered
 beforeStarted:∀ (before after:List (Event κ δ)) d generation between event next generation',
  Along step NewGap {limit} (before++.beginGap generation::after) →
  run step {limit} before=some d→ d.stopped=false →
  run step (d.beginGap generation) after=some between→ step between event=some next →
  next.delivered=between.delivered++[.started generation'] →
  ∀ entry∈d.ledger.accepted,.data entry∈between.delivered∨entry∈between.ledger.dropped
 beforeShared:∀ (before:List (Event κ δ)) d generation,
  Along step NewGap {limit} (before++[.beginGap generation]) →
  run step {limit} before=some d→ d.stopped=false→ hasStarted (d.beginGap generation).queue=false →
  ∃ front generation' back,d.delivered=front++.started generation'::back∧
   ∀ entry∈d.ledger.accepted,.data entry∈front∨entry∈(d.beginGap generation).ledger.dropped
 afterRecovered:∀ (before after:List (Event κ δ)) d conn payloads entry last,
  run step {limit} before=some d→ d.gapOpen=true →
  entry∈(d.enqueueData conn payloads).1.ledger.accepted→ entry∉d.ledger.accepted →
  run step (d.enqueueData conn payloads).1 after=some last → .data entry∈last.delivered →
  ∃ mid between rest,after=mid++.finish::rest∧
   run step (d.enqueueData conn payloads).1 mid=some between∧
   between.worker=.running (.recovered d.generation conn)

/-- Data callbacks run in order, each after the recovery it belongs to. -/
theorem dispatcher_serves_data (κ δ:Type) [DecidableEq κ] (limit:ℕ):ServesData κ δ limit where
 inOrder:=by
  intro events d hrun
  have h:=accounts_of_run hrun
  rw[h.delivered]
  exact (sublist_append_left _ _).trans h.balanced.inOrder
 once:=by
  intro events d hrun
  have h:=accounts_of_run hrun
  rw[h.delivered]
  exact ⟨h.nodup,h.balanced.account⟩
 dropped:=fun events d event next hrun hstep=>dropped_of_step (accounts_of_run hrun) hstep
 runs:=fun events d hrun hgoi=>works_off hrun hgoi
 beforeStarted:=by
  intro before after d generation between event next generation' hnew hbef hgoi haf hstep hdel entry hen
  have hbeg:step d (.beginGap generation)=some (d.beginGap generation):=rfl
  have hwh:run step ({limit}:Dispatcher κ δ) (before++.beginGap generation::after)=some between:=
   run_append_eq_some.mpr ⟨d,hbef,(run_cons_of_step hbeg after).trans haf⟩
  have hlat:Later d.ledger.accepted.length between:=
   invariant (Later _) (fun _ _ _ h hstep=>h.of_step hstep) (later_beginGap hgoi generation) haf
  have hmem:entry∈between.ledger.accepted:=by
   refine invariant (fun d=>entry∈d.ledger.accepted) (fun _ _ _ hmem hstep=>accepted_subset_of_step hstep hmem)
    ?_ haf
   exact accepted_subset_of_step hbeg hen
  obtain hsame | ⟨callback,rest,hq,hcal⟩:=delivered_of_step hstep
  · rw[hsame] at hdel
    simp at hdel
  · rw[hcal] at hdel
    cases append_cancel_left hdel
    exact (accounts_of_run hwh).settled (queueOrder_of_run hnew hwh) hlat hq hmem
     ((accounts_of_run hbef).serial_lt hen)
 beforeShared:=by
  intro before d generation hnew hbef hgoi hnone
  have hbeg:step d (.beginGap generation)=some (d.beginGap generation):=rfl
  have hwh:run step ({limit}:Dispatcher κ δ) (before++[.beginGap generation])=some (d.beginGap generation):=
   run_append_eq_some.mpr ⟨d,hbef,rfl⟩
  have hacc:=accounts_of_run hwh
  have hord:=queueOrder_of_run hnew hwh
  have hgap:d.beginGap generation=d.openGap generation:=if_neg (by simp[hgoi])
  have hopen:(d.beginGap generation).gapOpen=true:=by
   rw[hgap]
   rfl
  obtain ⟨front,generation',back,hdl,hback⟩:=hord.marked hopen hnone
  have hnil:=hord.opened hopen hnone
  have hrep:(d.beginGap generation).replacement=[]:=by
   rw[hgap]
   rfl
  have hsame:(d.beginGap generation).delivered=d.delivered:=by
   rw[hgap]
   rfl
  refine ⟨front,generation',back,hsame.symm.trans hdl,fun entry hen=>?_⟩
  have hmem:=accepted_subset_of_step hbeg hen
  obtain hran | hwai | hdro:=hacc.balanced.mem_cases hmem
  · rw[←hacc.delivered,hdl,dataOf_append,dataOf_cons_started,hback,append_nil] at hran
    exact .inl (mem_dataOf.mp hran)
  · grind
  · exact .inr hdro
 afterRecovered:=by
  intro before after d conn payloads entry last hbef hopen hnew hold haf hdl
  obtain ⟨hwai,rfl,hgen⟩:=mem_replacement_of_accepted hopen hnew hold
  have henq:step d (.enqueueData entry.conn payloads)=some (d.enqueueData entry.conn payloads).1:=rfl
  have hacc:=(accounts_of_run hbef).of_step henq
  obtain ⟨mid,between,rest,hsp,hmid,hwk⟩:=hacc.run_after_recovered hwai haf hdl
  grind

end

def heldEvents:List (Event ℕ ℕ):=[.beginGap 1,.activateConnection 1 7 true,.enqueueData 7 [5]]

def reusedEvents:List (Event ℕ ℕ):=
 [.beginGap 1,.signal,.wake,.take,.finish,.activateConnection 1 7 true,.enqueueRecovered 1 7,.take,
  .beginGap 1,.activateConnection 1 7 true,.finish,.enqueueData 7 [5]]

theorem activation_drops_and_reuse_reorders :
 (∃ d next,run step {limit:=1024} heldEvents=some d∧d.ledger.accepted=[⟨0,7,5⟩]∧
  d.ledger.dropped=[]∧step d (.activateConnection 1 8 true)=some next∧
  next.ledger.dropped=[⟨0,7,5⟩])∧
 (∃ d next,run step {limit:=1024} reusedEvents=some d∧d.ledger.accepted=[⟨0,7,5⟩]∧
  step (d.beginGap 2) .take=some next∧next.delivered=d.delivered++[.started 1]∧
  next.queue=[.data ⟨0,7,5⟩]∧next.ledger.dropped=[]):=
 ⟨⟨_,_,rfl,rfl,rfl,rfl,rfl⟩,⟨_,_,rfl,rfl,rfl,rfl,rfl,rfl⟩⟩

end BolterTrader.CallbackDispatch
