import BolterTrader.Foundations.Threads
import BolterTrader.Foundations.Transition

/-! The event stream of the adapters' push channels (`internal/wsstream`). -/
namespace BolterTrader.WsStream
open Foundations Foundations.Transition Foundations.Threads List Option

/-! ## The stream -/

inductive EmitPhase where
 | entering
 | sending
 | leaving (placed:Bool)
 | returned (placed:Bool)
 deriving DecidableEq

structure Emit (τ:Type*) where
 value:τ
 phase:EmitPhase:=.entering

inductive ClosePhase where
 | entering
 | waiting
 | closing
 | returned
 deriving DecidableEq

inductive Once where
 | fresh | running | finished
 deriving DecidableEq

structure Stream (τ:Type*) where
 capacity:ℕ
 closing:Bool:=false
 done:Bool:=false
 once:Once:=.fresh
 emitters:ℕ:=0
 queue:List τ:=[]
 emits:List (Emit τ):=[]
 closers:List ClosePhase:=[]
 closes:ℕ:=0
 received:List τ:=[]
 placed:List (ℕ×τ):=[]
 panicked:Bool:=false

inductive Event (τ:Type*) where
 | emit (value:τ)
 | enter (call:ℕ)
 | send (call:ℕ)
 | handOver (call:ℕ)
 | stop (call:ℕ)
 | leave (call:ℕ)
 | receive
 | close
 | shut (call:ℕ)
 | awaited (call:ℕ)
 | closeChannel (call:ℕ)

variable {τ:Type*}

def new (buffer:ℕ):Stream τ:={capacity:=buffer}
def Stream.emit (s:Stream τ) (value:τ):Stream τ:={s with emits:=s.emits++[{value}]}

def Stream.advance (s:Stream τ) (i:ℕ) (e:Emit τ) (phase:EmitPhase):Stream τ:=
 {s with emits:=s.emits.set i {e with phase}}

def Stream.enter (s:Stream τ) (i:ℕ) (e:Emit τ):Stream τ:=
 if s.closing then s.advance i e (.returned false)
 else {s.advance i e .sending with emitters:=s.emitters+1}

def Stream.place (s:Stream τ) (i:ℕ) (e:Emit τ) (queue received:List τ):Stream τ:=
 {s.advance i e (.leaving true) with
   queue
   received
   placed:=s.placed++[(i,e.value)]
   panicked:=s.panicked || 0<s.closes}

def Stream.leave (s:Stream τ) (i:ℕ) (e:Emit τ) (placed:Bool):Stream τ:=
 {s.advance i e (.returned placed) with
   emitters:=s.emitters-1
   panicked:=s.panicked || s.emitters=0}

def Stream.close (s:Stream τ):Stream τ:={s with closers:=s.closers++[.entering]}
def Stream.settle (s:Stream τ) (j:ℕ) (phase:ClosePhase):Stream τ:={s with closers:=s.closers.set j phase}

def Stream.shut (s:Stream τ) (j:ℕ):Stream τ:=
 {s.settle j .waiting with
   once:=.running
   closing:=true
   done:=true
   panicked:=s.panicked || s.done}

def Stream.onceDo (s:Stream τ) (j:ℕ):Option (Stream τ):=
 match s.once with
 | .fresh=>some (s.shut j)
 | .running=>none
 | .finished=>some (s.settle j .returned)

def Stream.closeChannel (s:Stream τ) (j:ℕ):Stream τ:=
 {s.settle j .returned with
   once:=.finished
   closes:=s.closes+1
   panicked:=s.panicked || 0<s.closes}

def Stream.at (s:Stream τ) (i:ℕ) (phase:EmitPhase):Option (Emit τ):=s.emits[i]?.filter fun e=>e.phase=phase

def step (s:Stream τ):Event τ→Option (Stream τ)
 | .emit value=>some (s.emit value)
 | .enter i=>(s.at i .entering).map (s.enter i)
 | .send i=>
  if s.queue.length<s.capacity∨0<s.closes then
   (s.at i .sending).map fun e=>s.place i e (s.queue++[e.value]) s.received
  else none
 | .handOver i=>
  if s.queue=[] then
   (s.at i .sending).map fun e=>s.place i e s.queue (s.received++[e.value])
  else none
 | .stop i=>if s.done then (s.at i .sending).map fun e=>s.advance i e (.leaving false) else none
 | .leave i=>
  match s.emits[i]? with
  | some ⟨value,.leaving placed⟩=>some (s.leave i ⟨value,.leaving placed⟩ placed)
  | _=>none
 | .receive=>
  match s.queue with
  | []=>none
  | value::rest=>some {s with queue:=rest,received:=s.received++[value]}
 | .close=>some s.close
 | .shut j=>if s.closers[j]?=some .entering then s.onceDo j else none
 | .awaited j=>if s.closers[j]?=some .waiting∧s.emitters=0 then some (s.settle j .closing) else none
 | .closeChannel j=>if s.closers[j]?=some .closing then some (s.closeChannel j) else none

variable {s:Stream τ}

theorem at_eq_some {i:ℕ} {e:Emit τ} {phase:EmitPhase}:
 s.at i phase=some e ↔ s.emits[i]?=some e∧e.phase=phase:=by
 unfold Stream.at
 grind

inductive Moves (s:Stream τ):Event τ→Stream τ→Prop where
 | emitted {value:τ}:Moves s (.emit value) (s.emit value)
 | entered {i:ℕ} {e:Emit τ} (he:s.emits[i]?=some e) (hphase:e.phase=.entering):
  Moves s (.enter i) (s.enter i e)
 | sent {i:ℕ} {e:Emit τ} (hroom:s.queue.length<s.capacity∨0<s.closes) (he:s.emits[i]?=some e)
  (hphase:e.phase=.sending):Moves s (.send i) (s.place i e (s.queue++[e.value]) s.received)
 | handedOver {i:ℕ} {e:Emit τ} (hempty:s.queue=[]) (he:s.emits[i]?=some e) (hphase:e.phase=.sending):
  Moves s (.handOver i) (s.place i e s.queue (s.received++[e.value]))
 | stopped {i:ℕ} {e:Emit τ} (hdone:s.done=true) (he:s.emits[i]?=some e) (hphase:e.phase=.sending):
  Moves s (.stop i) (s.advance i e (.leaving false))
 | left {i:ℕ} {value:τ} {placed:Bool} (he:s.emits[i]?=some ⟨value,.leaving placed⟩):
  Moves s (.leave i) (s.leave i ⟨value,.leaving placed⟩ placed)
 | received {value:τ} {rest:List τ} (hqueue:s.queue=value::rest):
  Moves s .receive {s with queue:=rest,received:=s.received++[value]}
 | closed : Moves s .close s.close
 | shutFirst {j:ℕ} (hj:s.closers[j]?=some .entering) (hfresh:s.once=.fresh):Moves s (.shut j) (s.shut j)
 | shutLate {j:ℕ} (hj:s.closers[j]?=some .entering) (hfinished:s.once=.finished):
  Moves s (.shut j) (s.settle j .returned)
 | awaited {j:ℕ} (hj:s.closers[j]?=some .waiting) (hzero:s.emitters=0):
  Moves s (.awaited j) (s.settle j .closing)
 | channelClosed {j:ℕ} (hj:s.closers[j]?=some .closing):Moves s (.closeChannel j) (s.closeChannel j)

theorem moves_of_step {t:Stream τ} {event:Event τ} (hstep:step s event=some t):Moves s event t:=by
 cases event with
 | emit=>
  cases hstep
  exact .emitted
 | enter=>
  obtain ⟨e,he,rfl⟩:=map_eq_some_iff.mp hstep
  exact .entered (at_eq_some.mp he).1 (at_eq_some.mp he).2
 | send=>
  obtain ⟨hroom,hsend⟩:=ite_none_right_eq_some.mp hstep
  obtain ⟨e,he,rfl⟩:=map_eq_some_iff.mp hsend
  exact .sent hroom (at_eq_some.mp he).1 (at_eq_some.mp he).2
 | handOver=>
  obtain ⟨hnil,hsend⟩:=ite_none_right_eq_some.mp hstep
  obtain ⟨e,he,rfl⟩:=map_eq_some_iff.mp hsend
  exact .handedOver hnil (at_eq_some.mp he).1 (at_eq_some.mp he).2
 | stop=>
  obtain ⟨hdone,hstop⟩:=ite_none_right_eq_some.mp hstep
  obtain ⟨e,he,rfl⟩:=map_eq_some_iff.mp hstop
  exact .stopped hdone (at_eq_some.mp he).1 (at_eq_some.mp he).2
 | leave=>
  simp only[step] at hstep
  split at hstep
  · next value placed he=>
     cases hstep
     exact .left he
  · cases hstep
 | receive=>
  simp only[step] at hstep
  split at hstep
  · cases hstep
  · next value rest hq=>
     cases hstep
     exact .received hq
 | close=>
  cases hstep
  exact .closed
 | shut=>
  obtain ⟨hj,hshut⟩:=ite_none_right_eq_some.mp hstep
  unfold Stream.onceDo at hshut
  split at hshut
  · next hfr=>
     cases hshut
     exact .shutFirst hj hfr
  · cases hshut
  · next hfin=>
     cases hshut
     exact .shutLate hj hfin
 | awaited=>
  obtain ⟨⟨hj,hzero⟩,hset⟩:=ite_none_right_eq_some.mp hstep
  cases hset
  exact .awaited hj hzero
 | closeChannel=>
  obtain ⟨hj,hcl⟩:=ite_none_right_eq_some.mp hstep
  cases hcl
  exact .channelClosed hj

def Stream.delivered (s:Stream τ) (value:τ):Stream τ:=
 {s with
   emits:=s.emits++[⟨value,.returned true⟩]
   queue:=s.queue++[value]
   placed:=s.placed++[(s.emits.length,value)]
   panicked:=s.panicked || 0<s.closes}

theorem run_emit (s:Stream τ) (value:τ) (hopen:s.closing=false) (hroom:s.queue.length<s.capacity):
 run step (s.emit value) [.enter s.emits.length,.send s.emits.length,.leave s.emits.length] =
  some (s.delivered value):=by
 have hset:∀ e e':Emit τ,(s.emits++[e]).set s.emits.length e'=s.emits++[e']:=by
  intro e e'
  simp
 have hent:step (s.emit value) (.enter s.emits.length) =
   some {s with emits:=s.emits++[⟨value,.sending⟩],emitters:=s.emitters+1}:=by
  simp[step,Stream.emit,Stream.at,Stream.enter,Stream.advance,hopen,hset,Option.filter]
 have hsend:step {s with emits:=s.emits++[⟨value,.sending⟩],emitters:=s.emitters+1}
   (.send s.emits.length) =
   some {s with
    emits:=s.emits++[⟨value,.leaving true⟩]
    emitters:=s.emitters+1
    queue:=s.queue++[value]
    placed:=s.placed++[(s.emits.length,value)]
    panicked:=s.panicked || 0<s.closes}:=by
  simp[step,Stream.at,Stream.place,Stream.advance,hroom,hset,Option.filter]
 refine run_cons_eq_some.mpr ⟨_,hent,run_cons_eq_some.mpr ⟨_,hsend,?_⟩⟩
 simp[run,step,Stream.leave,Stream.advance,Stream.delivered,hset]

/-! ## What every step keeps -/

def EmitPhase.registered:EmitPhase→Bool
 | .sending | .leaving _=>true
 | .entering | .returned _=>false

def EmitPhase.placed:EmitPhase→Bool
 | .leaving placed | .returned placed=>placed
 | .entering | .sending=>false

def EmitPhase.isReturned:EmitPhase→Bool
 | .returned _=>true
 | .entering | .sending | .leaving _=>false

def ClosePhase.inside:ClosePhase→Bool
 | .waiting | .closing=>true
 | .entering | .returned=>false

structure Stream.Consistent (s:Stream τ):Prop where
 calm:s.panicked=false
 signal:s.done=s.closing
 shut:s.closing=true ↔ s.once≠.fresh
 counted:s.emitters=s.emits.countP fun e=>e.phase.registered
 inside:s.closers.countP ClosePhase.inside=if s.once=.running then 1 else 0
 closes:s.closes=if s.once=.finished then 1 else 0
 quiet:s.once=.finished∨.closing∈s.closers→ s.emitters=0
 returned:.returned∈s.closers→ s.once=.finished
 placements:∀ i e,s.emits[i]?=some e → (s.placed.map Prod.fst).count i=if e.phase.placed then 1 else 0
 values:∀ i value,(i,value)∈s.placed → ∃ e,s.emits[i]?=some e∧e.value=value
 fifo:s.placed.map Prod.snd=s.received++s.queue

theorem consistent_new (buffer:ℕ):(new buffer:Stream τ).Consistent where
 calm:=rfl
 signal:=rfl
 shut:=by simp[new]
 counted:=rfl
 inside:=rfl
 closes:=rfl
 quiet:=by simp[new]
 returned:=by simp[new]
 placements:=by simp[new]
 values:=by simp[new]
 fifo:=rfl

namespace Stream.Consistent

variable {s:Stream τ} {i j:ℕ} {e:Emit τ}

theorem registered_pos (h:s.Consistent) (he:s.emits[i]?=some e) (hph:e.phase.registered=true):
 0<s.emitters:=by
 rw[h.counted,countP_pos_iff]
 grind

theorem open_of_registered (h:s.Consistent) (he:s.emits[i]?=some e)
 (hph:e.phase.registered=true):s.closes=0:=by
 have hpos:=h.registered_pos he hph
 rw[h.closes]
 split
 · next hfin=>
    have:=h.quiet (.inl hfin)
    omega
 · rfl

theorem count_advance (h:s.Consistent) (he:s.emits[i]?=some e) (phase:EmitPhase):
 (s.advance i e phase).emits.countP (fun e=>e.phase.registered)+(if e.phase.registered then 1 else 0) =
  s.emitters+if phase.registered then 1 else 0:=by
 rw[h.counted]
 exact countP_moved (fun e:Emit τ=>e.phase.registered) he {e with phase}

theorem values_advance (h:s.Consistent) (he:s.emits[i]?=some e) (phase:EmitPhase) (k:ℕ) (value:τ)
 (hk:(k,value)∈s.placed):
 ∃ e',(s.advance i e phase).emits[k]?=some e'∧e'.value=value:=by
 obtain ⟨old,hold,hv⟩:=h.values k value hk
 have hmov:=getElem?_moved he {e with phase} k
 by_cases hik:i=k
 · subst hik
   cases he.symm.trans hold
   exact ⟨{e with phase},by rw[Stream.advance,hmov,if_pos rfl],hv⟩
 · exact ⟨old,by rw[Stream.advance,hmov,if_neg hik,hold],hv⟩

theorem placements_advance (h:s.Consistent) (he:s.emits[i]?=some e) {phase:EmitPhase}
 (hph:phase.placed=e.phase.placed) (k:ℕ) (e':Emit τ)
 (hk:(s.advance i e phase).emits[k]?=some e'):
 (s.placed.map Prod.fst).count k=if e'.phase.placed then 1 else 0:=by
 rw[Stream.advance,getElem?_moved he] at hk
 split at hk
 · next hik=>
    subst hik
    cases hk
    rw[hph]
    exact h.placements i e he
 · exact h.placements k e' hk

theorem emit (h:s.Consistent) (value:τ):(s.emit value).Consistent:=
 {h with
   counted:=by
    rw[Stream.emit,countP_append,←h.counted]
    rfl
   placements:=by
    intro k e' hk
    rw[Stream.emit,getElem?_started] at hk
    split at hk
    · next hnew=>
       -- no earlier call has the number of the new one
       cases hk
       refine count_eq_zero.mpr fun hmem=>?_
       obtain ⟨⟨k',value'⟩,hpla,rfl⟩:=mem_map.mp hmem
       obtain ⟨old,hold,-⟩:=h.values _ _ hpla
       have:=(List.getElem?_eq_some_iff.mp hold).1
       dsimp only at hnew
       omega
    · exact h.placements k e' hk
   values:=by
    intro k value' hk
    obtain ⟨old,hold,hv⟩:=h.values k value' hk
    have hlt:=(List.getElem?_eq_some_iff.mp hold).1
    exact ⟨old,by rw[Stream.emit,List.getElem?_append_left hlt,hold],hv⟩}

theorem enter (h:s.Consistent) (he:s.emits[i]?=some e) (hph:e.phase=.entering):
 (s.enter i e).Consistent:=by
 have hct:=h.count_advance he
 unfold Stream.enter
 split
 · have href:=hct (.returned false)
   rw[hph] at href
   exact
    {h with
      counted:=href.symm
      placements:=h.placements_advance he (by rw[hph]; rfl)
      values:=h.values_advance he _}
 · next hopen=>
    have hfr:s.once=.fresh:=by
     by_contra hne
     exact hopen (h.shut.mpr hne)
    have hreg:=hct .sending
    rw[hph] at hreg
    exact
     {h with
       counted:=hreg.symm
       quiet:=by
        rintro (hfin | hclo)
        · cases hfr.symm.trans hfin
        · have hins:=h.inside
          rw[hfr,if_neg (by simp),countP_eq_zero] at hins
          exact absurd rfl (hins _ hclo)
       placements:=h.placements_advance he (by rw[hph]; rfl)
       values:=h.values_advance he _}

theorem place (h:s.Consistent) (he:s.emits[i]?=some e) (hph:e.phase=.sending)
 {queue received:List τ} (hfifo:received++queue=s.received++s.queue++[e.value]):
 (s.place i e queue received).Consistent:=
 {h with
   calm:=by
    show (s.panicked || decide (0<s.closes))=false
    rw[h.calm,h.open_of_registered he (by rw[hph]; rfl)]
    rfl
   counted:=by
    have hct:=h.count_advance he (.leaving true)
    rw[hph] at hct
    exact (Nat.add_right_cancel hct).symm
   placements:=by
    intro k e' hk
    show ((s.placed++[(i,e.value)]).map Prod.fst).count k=_
    rw[map_append,count_append]
    rw[Stream.place,Stream.advance,getElem?_moved he] at hk
    split at hk
    · next hik=>
       subst hik
       cases hk
       have hold:=h.placements i e he
       rw[hph] at hold
       simp[hold,EmitPhase.placed]
    · next hik=>
       rw[h.placements k e' hk]
       simp[hik]
   values:=by
    intro k value hk
    rcases mem_append.mp hk with hold | hnew
    · exact h.values_advance he _ k value hold
    · cases mem_singleton.mp hnew
      exact ⟨{e with phase:=.leaving true},by rw[Stream.place,Stream.advance,getElem?_moved he,if_pos rfl],rfl⟩
   fifo:=by
    show (s.placed++[(i,e.value)]).map Prod.snd=received++queue
    rw[map_append,h.fifo,hfifo]
    rfl}

theorem stop (h:s.Consistent) (he:s.emits[i]?=some e) (hph:e.phase=.sending):
 (s.advance i e (.leaving false)).Consistent:=
 {h with
   counted:=by
    have hct:=h.count_advance he (.leaving false)
    rw[hph] at hct
    exact (Nat.add_right_cancel hct).symm
   placements:=h.placements_advance he (by rw[hph]; rfl)
   values:=h.values_advance he _}

theorem leave (h:s.Consistent) {placed:Bool} (he:s.emits[i]?=some e)
 (hph:e.phase=.leaving placed):(s.leave i e placed).Consistent:=by
 have hpos:=h.registered_pos he (by rw[hph]; rfl)
 exact
  {h with
    calm:=by
     show (s.panicked || decide (s.emitters=0))=false
     rw[h.calm,Bool.false_or,decide_eq_false_iff_not]
     omega
    counted:=by
     have hct:=h.count_advance he (.returned placed)
     rw[hph] at hct
     show s.emitters-1=(s.advance i e (.returned placed)).emits.countP _
     change _+1=s.emitters+0 at hct
     omega
    quiet:=by
     intro hpast
     have hqt:=h.quiet hpast
     show s.emitters-1=0
     omega
    placements:=h.placements_advance he (by rw[hph]; rfl)
    values:=h.values_advance he _}

theorem receive (h:s.Consistent) {value:τ} {rest:List τ} (hq:s.queue=value::rest):
 {s with queue:=rest,received:=s.received++[value]}.Consistent:=
 {h with
   fifo:=by
    rw[h.fifo,hq]
    simp}

theorem close (h:s.Consistent):s.close.Consistent:=
 {h with
   inside:=by
    rw[Stream.close,countP_append]
    exact h.inside
   quiet:=fun hpast=>h.quiet (by simpa[Stream.close] using hpast)
   returned:=fun hret=>h.returned (by simpa[Stream.close] using hret)}

theorem count_settle (h:s.Consistent) {old:ClosePhase} (hold:s.closers[j]?=some old) (new:ClosePhase):
 (s.settle j new).closers.countP ClosePhase.inside+(if old.inside then 1 else 0) =
  (if s.once=.running then 1 else 0)+if new.inside then 1 else 0:=by
 rw[←h.inside]
 exact countP_moved ClosePhase.inside hold new

theorem mem_settle {phase new:ClosePhase} (hmem:phase∈(s.settle j new).closers):
 phase∈s.closers∨phase=new:=
 mem_or_eq_of_mem_set hmem

theorem running_of_inside (h:s.Consistent) {phase:ClosePhase} (hmem:phase∈s.closers)
 (hins:phase.inside=true):s.once=.running:=by
 by_contra hne
 have hct:=h.inside
 grind

theorem shut_first (h:s.Consistent) (hj:s.closers[j]?=some .entering) (hfr:s.once=.fresh):
 (s.shut j).Consistent:=
 {h with
   calm:=by
    have hopen:s.closing=false:=by
     rw[Bool.eq_false_iff]
     exact fun hclo=>h.shut.mp hclo hfr
    show (s.panicked || s.done)=false
    rw[h.calm,h.signal,hopen]
    rfl
   signal:=rfl
   shut:=by simp[Stream.shut]
   inside:=by
    have hct:=h.count_settle hj .waiting
    rw[hfr] at hct
    exact hct
   closes:=by
    show s.closes=0
    rw[h.closes,hfr]
    rfl
   quiet:=by
    rintro (hfin | hclo)
    · cases hfin
    · rcases mem_settle hclo with hmem | heq
      · cases hfr.symm.trans (h.running_of_inside hmem rfl)
      · cases heq
   returned:=by
    intro hret
    rcases mem_settle hret with hmem | heq
    · cases hfr.symm.trans (h.returned hmem)
    · cases heq}

theorem shut_late (h:s.Consistent) (hj:s.closers[j]?=some .entering) (hfin:s.once=.finished):
 (s.settle j .returned).Consistent:=
 {h with
   inside:=h.count_settle hj .returned
   quiet:=fun _=>h.quiet (.inl hfin)
   returned:=fun _=>hfin}

theorem awaited (h:s.Consistent) (hj:s.closers[j]?=some .waiting) (hzero:s.emitters=0):
 (s.settle j .closing).Consistent:=
 {h with
   inside:=by
    have hct:=h.count_settle hj .closing
    exact Nat.add_right_cancel hct
   quiet:=fun _=>hzero
   returned:=by
    intro hret
    rcases mem_settle hret with hmem | heq
    · exact h.returned hmem
    · cases heq}

theorem closeChannel (h:s.Consistent) (hj:s.closers[j]?=some .closing):(s.closeChannel j).Consistent:=by
 have hrn:=h.running_of_inside (mem_of_getElem? hj) rfl
 have hopen:s.closes=0:=by
  rw[h.closes,hrn]
  rfl
 exact
  {h with
    calm:=by
     show (s.panicked || decide (0<s.closes))=false
     rw[h.calm,hopen]
     rfl
    shut:=by
     have hclo:=h.shut.mpr (by rw[hrn]; simp)
     simp[Stream.closeChannel,Stream.settle,hclo]
    inside:=by
     have hct:=h.count_settle hj .returned
     rw[hrn] at hct
     exact Nat.succ.inj hct
    closes:=by
     show s.closes+1=1
     omega
    quiet:=fun _=>h.quiet (.inr (mem_of_getElem? hj))
    returned:=fun _=>rfl}

theorem step (h:s.Consistent) {event:Event τ} {t:Stream τ} (hstep:step s event=some t):
 t.Consistent:=by
 cases moves_of_step hstep with
 | emitted=>exact h.emit _
 | entered he hph=>exact h.enter he hph
 | sent _ he hph=>exact h.place he hph (by simp)
 | handedOver hnil he hph=>exact h.place he hph (by rw[hnil,append_nil,append_nil])
 | stopped _ he hph=>exact h.stop he hph
 | left he=>exact h.leave he rfl
 | received hq=>exact h.receive hq
 | closed=>exact h.close
 | shutFirst hj hfr=>exact h.shut_first hj hfr
 | shutLate hj hfin=>exact h.shut_late hj hfin
 | awaited hj hzero=>exact h.awaited hj hzero
 | channelClosed hj=>exact h.closeChannel hj

end Stream.Consistent

theorem reachable_consistent {buffer:ℕ} {events:List (Event τ)} (hrun:run step (new buffer) events=some s):
 s.Consistent:=
 invariant Stream.Consistent (fun _ _ _ h hstep=>h.step hstep) (consistent_new buffer) hrun

/-! ## A `Close` finishes without the consumer -/

def Event.internal:Event τ→Bool
 | .enter _ | .send _ | .stop _ | .leave _ | .shut _ | .awaited _ | .closeChannel _=>true
 | .emit _ | .handOver _ | .receive | .close=>false

def EmitPhase.remaining:EmitPhase→ℕ
 | .entering=>3
 | .sending=>2
 | .leaving _=>1
 | .returned _=>0

def ClosePhase.remaining:ClosePhase→ℕ
 | .entering=>3
 | .waiting=>2
 | .closing=>1
 | .returned=>0

def Stream.remaining (s:Stream τ):ℕ:=
 (s.emits.map fun e=>e.phase.remaining).sum+(s.closers.map ClosePhase.remaining).sum

/-! The items unread and those that calls under way may still place: only a new call
of `Emit` adds to them. -/

def EmitPhase.pending:EmitPhase→Bool
 | .entering | .sending=>true
 | .leaving _ | .returned _=>false

def Stream.load (s:Stream τ):ℕ:=s.queue.length+s.emits.countP fun e=>e.phase.pending

def Event.isCall:Event τ→Bool
 | .emit _ | .close=>true
 | .enter _ | .send _ | .handOver _ | .stop _ | .leave _ | .receive | .shut _ | .awaited _ | .closeChannel _=>false

structure Stream.Followed (s t:Stream τ):Prop where
 capacity:t.capacity=s.capacity
 closing:s.closing=true→ t.closing=true
 load:t.load≤ s.load
 emits:s.emits.length≤t.emits.length
 closers:s.closers.length≤t.closers.length

theorem Stream.Followed.refl (s:Stream τ):s.Followed s:=⟨rfl,id,Nat.le_refl _,Nat.le_refl _,Nat.le_refl _⟩

theorem followed_close (s:Stream τ):s.Followed s.close:=
 ⟨rfl,id,Nat.le_refl _,Nat.le_refl _,by simp[Stream.close]⟩

theorem load_emit (s:Stream τ) (value:τ):(s.emit value).load=s.load+1:=by
 rw[Stream.load,Stream.emit,countP_append]
 rfl

theorem free_of_load {i:ℕ} {e:Emit τ} (he:s.emits[i]?=some e) (hph:e.phase.pending=true)
 (hload:s.load≤ s.capacity):s.queue.length<s.capacity:=by
 grind [Stream.load]

theorem remaining_emit (s:Stream τ) (value:τ):(s.emit value).remaining=s.remaining+3:=by
 grind [Stream.remaining,Stream.emit,EmitPhase.remaining]

theorem remaining_close (s:Stream τ):s.close.remaining=s.remaining+3:=by
 grind [Stream.remaining,Stream.close,ClosePhase.remaining]

section Progress

variable {s t:Stream τ} {i j:ℕ} {e:Emit τ}

theorem remaining_advance (he:s.emits[i]?=some e) (phase:EmitPhase):
 ((s.advance i e phase).emits.map fun e=>e.phase.remaining).sum+e.phase.remaining =
  (s.emits.map fun e=>e.phase.remaining).sum+phase.remaining:=
 sum_moved (fun e:Emit τ=>e.phase.remaining) he {e with phase}

theorem remaining_settle {old:ClosePhase} (hj:s.closers[j]?=some old) (new:ClosePhase):
 ((s.settle j new).closers.map ClosePhase.remaining).sum+old.remaining =
  (s.closers.map ClosePhase.remaining).sum+new.remaining:=
 sum_moved ClosePhase.remaining hj new

theorem remaining_lt_of_advance (he:s.emits[i]?=some e) (phase:EmitPhase)
 (hless:phase.remaining<e.phase.remaining) (hemi:t.emits=(s.advance i e phase).emits)
 (hclos:t.closers=s.closers):t.remaining<s.remaining:=by
 have hsum:=remaining_advance he phase
 unfold Stream.remaining
 rw[hemi,hclos]
 omega

theorem remaining_lt_of_settle {old new:ClosePhase} (hj:s.closers[j]?=some old)
 (hless:new.remaining<old.remaining) (hemi:t.emits=s.emits)
 (hclos:t.closers=(s.settle j new).closers):t.remaining<s.remaining:=by
 grind [remaining_settle,new,Stream.remaining]

variable {event:Event τ}

theorem step_remaining (hint:event.internal=true) (hstep:step s event=some t):
 t.remaining<s.remaining:=by
 cases moves_of_step hstep with
 | emitted | handedOver | received | closed=>cases hint
 | entered he hph=>
  unfold Stream.enter
  split
  · exact remaining_lt_of_advance he (.returned false) (by rw[hph]; decide) rfl rfl
  · exact remaining_lt_of_advance he .sending (by rw[hph]; decide) rfl rfl
 | sent _ he hph=>exact remaining_lt_of_advance he (.leaving true) (by rw[hph]; decide) rfl rfl
 | stopped _ he hph=>exact remaining_lt_of_advance he (.leaving false) (by rw[hph]; decide) rfl rfl
 | @left i value placed he=>exact remaining_lt_of_advance he (.returned placed) Nat.one_pos rfl rfl
 | shutFirst hj | shutLate hj | awaited hj | channelClosed hj=>exact remaining_lt_of_settle hj (by decide) rfl rfl

theorem emit_moves (he:s.emits[i]?=some e) (hret:e.phase.isReturned=false)
 (hroom:e.phase=.sending→ s.queue.length<s.capacity∨s.done=true):
 ∃ event t,event.internal=true∧step s event=some t:=by
 obtain ⟨value,phase⟩:=e
 cases phase with
 | returned=>cases hret
 | entering=>exact ⟨.enter i,_,rfl,by simp only[step,Stream.at,he]; rfl⟩
 | leaving=>exact ⟨.leave i,_,rfl,by simp only[step,he]; rfl⟩
 | sending=>
  rcases hroom rfl with hfree | hdone
  · exact ⟨.send i,_,rfl,by simp only[step,hfree,true_or,if_true,Stream.at,he]; rfl⟩
  · exact ⟨.stop i,_,rfl,by simp only[step,hdone,if_true,Stream.at,he]; rfl⟩

theorem close_moves (h:s.Consistent) {phase:ClosePhase} (hj:s.closers[j]?=some phase)
 (hpd:phase≠.returned):∃ event t,event.internal=true∧step s event=some t:=by
 have hent:s.once≠.running→ phase=.entering:=by
  intro hidle
  cases phase with
  | entering=>rfl
  | returned=>exact absurd rfl hpd
  | waiting | closing=>exact absurd (h.running_of_inside (mem_of_getElem? hj) rfl) hidle
 cases honce : s.once with
 | fresh=>
  rw[hent (by rw[honce]; decide)] at hj
  exact ⟨.shut j,s.shut j,rfl,by simp only[step,hj,if_true,Stream.onceDo,honce]⟩
 | finished=>
  rw[hent (by rw[honce]; decide)] at hj
  exact ⟨.shut j,s.settle j .returned,rfl,by simp only[step,hj,if_true,Stream.onceDo,honce]⟩
 | running=>
  -- the call inside the `once` moves on, or a registered `Emit` it waits for does
  have hct:=h.inside
  rw[if_pos honce] at hct
  obtain ⟨inner,hmem,hins⟩:=countP_pos_iff.mp (hct▸Nat.one_pos)
  obtain ⟨k,hk⟩:=List.getElem?_of_mem hmem
  cases inner with
  | entering | returned=>cases hins
  | closing=>exact ⟨.closeChannel k,s.closeChannel k,rfl,by simp only[step,hk,if_true]⟩
  | waiting=>
   by_cases hzero:s.emitters=0
   · exact ⟨.awaited k,s.settle k .closing,rfl,by simp only[step,hk,hzero,and_self,if_true]⟩
   · have hpos:0<s.emits.countP fun e=>e.phase.registered:=by
      rw[←h.counted]
      omega
     obtain ⟨e,hemit,hreg⟩:=countP_pos_iff.mp hpos
     obtain ⟨i,hi⟩:=List.getElem?_of_mem hemit
     have hdone:s.done=true:=by
      rw[h.signal,h.shut,honce]
      decide
     refine emit_moves hi ?_ fun _=>.inr hdone
     cases hph : e.phase with
     | returned=>
      rw[hph] at hreg
      cases hreg
     | entering | sending | leaving=>rfl

theorem followed_of_advance (he:s.emits[i]?=some e) (phase:EmitPhase) (hcap:t.capacity=s.capacity)
  (hclo:t.closing=s.closing) (hemi:t.emits=(s.advance i e phase).emits)
  (hclos:t.closers=s.closers)
  (hload:t.queue.length+(if phase.pending then 1 else 0) ≤
   s.queue.length+if e.phase.pending then 1 else 0):s.Followed t where
 capacity:=hcap
 closing:=fun hshut=>by rw[hclo,hshut]
 load:=by
  have hct:=countP_moved (fun e:Emit τ=>e.phase.pending) he {e with phase}
  unfold Stream.load
  rw[hemi,Stream.advance]
  dsimp only at hct ⊢
  omega
 emits:=Nat.le_of_eq (by rw[hemi,Stream.advance,length_set])
 closers:=Nat.le_of_eq (by rw[hclos])

theorem followed_of_settle (phase:ClosePhase) (hcap:t.capacity=s.capacity)
  (hclo:s.closing=true→ t.closing=true) (hq:t.queue=s.queue) (hemi:t.emits=s.emits)
  (hclos:t.closers=(s.settle j phase).closers):s.Followed t where
 capacity:=hcap
 closing:=hclo
 load:=Nat.le_of_eq (by rw[Stream.load,Stream.load,hq,hemi])
 emits:=Nat.le_of_eq (by rw[hemi])
 closers:=Nat.le_of_eq (by rw[hclos,Stream.settle,length_set])

theorem followed_of_step (hcall:event.isCall=false) (hstep:step s event=some t):s.Followed t:=by
 have hless:∀ n m:ℕ,n+0≤n+m:=fun n m=>Nat.add_le_add_left (Nat.zero_le m) n
 cases moves_of_step hstep with
 | emitted | closed=>cases hcall
 | entered he hph=>
  unfold Stream.enter
  split
  · exact followed_of_advance he (.returned false) rfl rfl rfl rfl (hless _ _)
  · exact followed_of_advance he .sending rfl rfl rfl rfl (by rw[hph]; exact Nat.le_refl _)
 | sent _ he hph=>
  refine followed_of_advance he (.leaving true) rfl rfl rfl rfl ?_
  rw[hph]
  simp[Stream.place,EmitPhase.pending]
 | handedOver _ he=>exact followed_of_advance he (.leaving true) rfl rfl rfl rfl (hless _ _)
 | stopped _ he=>exact followed_of_advance he (.leaving false) rfl rfl rfl rfl (hless _ _)
 | @left i value placed he=>exact followed_of_advance he (.returned placed) rfl rfl rfl rfl (hless _ _)
 | received hq=>
  refine ⟨rfl,id,?_,Nat.le_refl _,Nat.le_refl _⟩
  simp[Stream.load,hq]
 | shutFirst=>exact followed_of_settle .waiting rfl (fun _=>rfl) rfl rfl rfl
 | awaited=>exact followed_of_settle .closing rfl id rfl rfl rfl
 | shutLate | channelClosed=>exact followed_of_settle .returned rfl id rfl rfl rfl

theorem isCall_of_internal (hint:event.internal=true):event.isCall=false:=by
 cases event<;>first | rfl | cases hint

theorem returned_or_moves (h:s.Consistent) (hj:j<s.closers.length):
 s.closers[j]?=some .returned∨∃ event t,event.internal=true∧step s event=some t:=by
 have hph:s.closers[j]?=some s.closers[j]:=List.getElem?_eq_getElem hj
 by_cases hret:s.closers[j]=.returned
 · exact .inl (by rw[hph,hret])
 · exact .inr (close_moves h hph hret)

theorem close_returns (h:s.Consistent) (hj:j<s.closers.length):
 ∃ events t,(∀ event∈events,Event.internal event=true)∧run step s events=some t∧
  t.closers[j]?=some .returned:=by
 have hpro:∀ s:Stream τ,s.Consistent∧j<s.closers.length→ s.closers[j]?≠some .returned →
   ∃ event t,event.internal=true∧step s event=some t∧(t.Consistent∧j<t.closers.length)∧
    t.remaining<s.remaining:=by
  rintro s ⟨hcon,hlt⟩ hopen
  obtain ⟨event,t,hint,hstep⟩:=(returned_or_moves hcon hlt).resolve_left hopen
  have hfol:=followed_of_step (isCall_of_internal hint) hstep
  exact ⟨event,t,hint,hstep,⟨hcon.step hstep,Nat.lt_of_lt_of_le hlt hfol.closers⟩,step_remaining hint hstep⟩
 obtain ⟨events,t,hint,hrun,-,hret⟩:=
  exists_run_of_progress _ (fun s:Stream τ=>s.closers[j]?=some .returned) _ _ hpro ⟨h,hj⟩
 grind

/-! A full buffer stays full when nobody reads and nobody closes the stream. -/

structure Stream.Stalled (s:Stream τ):Prop where
 full:s.capacity≤ s.queue.length
 signal:s.done=false
 shut:s.closing=false
 closes:s.closes=0
 closers:s.closers=[]

theorem Stream.Stalled.step (h:s.Stalled) (hint:event.internal=true) (hstep:step s event=some t):
 t.Stalled∧∀ (k:ℕ) (e:Emit τ),s.emits[k]?=some e→ e.phase.pending=true →
  ∃ e':Emit τ,t.emits[k]?=some e'∧e'.phase.pending=true:=by
 have hfull:=h.full
 have hnone:∀ {j:ℕ} {phase:ClosePhase},s.closers[j]?≠some phase:=by
  intro j phase hj
  rw[h.closers] at hj
  cases hj
 cases moves_of_step hstep with
 | emitted | handedOver | received | closed=>cases hint
 | sent hroom=>
  have hopen:=h.closes
  omega
 | stopped hdone=>cases h.signal.symm.trans hdone
 | shutFirst hj | shutLate hj | awaited hj | channelClosed hj=>exact absurd hj hnone
 | entered he=>
  unfold Stream.enter
  rw[h.shut]
  refine ⟨⟨hfull,h.signal,h.shut,h.closes,h.closers⟩,fun k e' hk hpd=>?_⟩
  simp only[Bool.false_eq_true,if_false,Stream.advance,getElem?_moved he]
  split
  · exact ⟨_,rfl,rfl⟩
  · exact ⟨e',hk,hpd⟩
 | left he=>
  refine ⟨⟨hfull,h.signal,h.shut,h.closes,h.closers⟩,fun k e' hk hpd=>?_⟩
  simp only[Stream.leave,Stream.advance,getElem?_moved he]
  split
  · next hik=>
     subst hik
     cases he.symm.trans hk
     cases hpd
  · exact ⟨e',hk,hpd⟩

end Progress

/-! ## The contract of the stream -/

def Stream.timesPlaced (s:Stream τ) (call:ℕ):ℕ:=(s.placed.map Prod.fst).count call

/-- What `Emit` and `Close` promise to their callers. -/
structure Stream.Contract (s:Stream τ):Prop where
 calm:s.panicked=false
 emits:∀ i e placed,s.emits[i]?=some e→ e.phase=.returned placed →
  (placed=true ↔ s.timesPlaced i=1)∧(placed=false ↔ s.timesPlaced i=0)
 values:∀ i value,(i,value)∈s.placed → ∃ e,s.emits[i]?=some e∧e.value=value
 fifo:s.placed.map Prod.snd=s.received++s.queue
 noLateSend:∀ i t,step s (.send i)=some t∨step s (.handOver i)=some t→ s.closes=0
 closedOnce:s.closes≤1∧(.returned∈s.closers→ s.closes=1)
 emitsFinished:.returned∈s.closers → ∀ e∈s.emits,e.phase=.entering∨∃ placed,e.phase=.returned placed
 closable:∀ j<s.closers.length,∃ events t,
  (∀ event∈events,Event.internal event=true)∧run step s events=some t∧t.closers[j]?=some .returned

theorem no_late_send (h:s.Consistent) (i:ℕ) (t:Stream τ)
 (hsend:step s (.send i)=some t∨step s (.handOver i)=some t):s.closes=0:=by
 rcases hsend with hsend | hsend
 · cases moves_of_step hsend with
   | sent _ he hph=>exact h.open_of_registered he (by rw[hph]; rfl)
 · cases moves_of_step hsend with
   | handedOver _ he hph=>exact h.open_of_registered he (by rw[hph]; rfl)

/-- `Emit` is true exactly for values that are placed, and nothing is placed after `Close`. -/
theorem emit_close_contract (buffer:ℕ) {events:List (Event τ)} {s:Stream τ}
 (hrun:run step (new buffer) events=some s):s.Contract:=by
 have h:=reachable_consistent hrun
 refine ⟨h.calm,?_,h.values,h.fifo,no_late_send h,⟨?_,?_⟩,?_,fun j hj=>close_returns h hj⟩
 · intro i e placed he hph
   have hct:=h.placements i e he
   rw[hph] at hct
   change s.timesPlaced i=if placed then 1 else 0 at hct
   rw[hct]
   cases placed<;>simp
 · rw[h.closes]
   split<;>omega
 · intro hret
   rw[h.closes,if_pos (h.returned hret)]
 · intro hret e he
   have hqt:=h.quiet (.inl (h.returned hret))
   rw[h.counted,countP_eq_zero] at hqt
   have hidle:=hqt e he
   cases hph : e.phase with
   | entering=>exact .inl rfl
   | returned placed=>exact .inr ⟨placed,rfl⟩
   | sending | leaving=>
    rw[hph] at hidle
    exact absurd rfl hidle

def closedWhileBlocked:List (Event ℕ):=
 [.emit 7,.emit 8,.enter 0,.send 0,.enter 1,.close,.close,.shut 0,.stop 1,.leave 0,.leave 1,
  .awaited 0,.closeChannel 0,.shut 1,.receive]

theorem emit_close_contract_blocked :
 ∃ s,run step (new 1) closedWhileBlocked=some s∧s.received=[7]∧
  s.closers=[.returned,.returned]∧s.Contract:=
 ⟨_,rfl,rfl,rfl,emit_close_contract 1 (show run step (new 1) closedWhileBlocked=_ from rfl)⟩

end BolterTrader.WsStream
