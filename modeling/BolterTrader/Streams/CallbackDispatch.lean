import BolterTrader.Foundations.Ledger
import BolterTrader.Foundations.Transition
import Mathlib.Data.List.Nodup
import Mathlib.Data.List.Range

/-! The callback dispatchers of the Hyperliquid client (`ws_dispatch.go`) and of the Nado
account client (`ws_account_dispatch.go`), which are one program: a worker runs the
callbacks of one queue, and while a gap of the connection is open the data of the
replacement socket waits in a buffer for its `Recovered` callback. -/
namespace BolterTrader.CallbackDispatch
open Foundations Transition List

/-! ## Callbacks -/

structure Data (κ δ:Type) where
 serial:ℕ
 conn:κ
 payload:δ

inductive Callback (κ δ:Type) where
 | data (entry:Data κ δ)
 | started (generation:ℕ)
 | recovered (generation:ℕ) (conn:κ)

inductive Kind where
 | data | started | recovered
 deriving DecidableEq

namespace Callback
variable {κ δ:Type}

def kind:Callback κ δ→Kind
 | data _=>.data
 | started _=>.started
 | recovered _ _=>.recovered

def data?:Callback κ δ→Option (Data κ δ)
 | data entry=>some entry
 | _=>none

def isStarted:Callback κ δ→Bool
 | started _=>true
 | _=>false

def isRecovered:Callback κ δ→Bool
 | recovered _ _=>true
 | _=>false

end Callback

def dataOf {κ δ:Type} (queue:List (Callback κ δ)):List (Data κ δ):=queue.filterMap Callback.data?
def hasStarted {κ δ:Type} (queue:List (Callback κ δ)):Bool:=queue.any Callback.isStarted

def withoutRecovered {κ δ:Type} (queue:List (Callback κ δ)):List (Callback κ δ):=
 queue.filter fun callback=>!callback.isRecovered

section
variable {κ δ:Type}

@[simp] theorem dataOf_nil:dataOf ([]:List (Callback κ δ))=[]:=rfl

@[simp] theorem dataOf_cons_data (en:Data κ δ) (rest:List (Callback κ δ)):
 dataOf (.data en::rest)=en::dataOf rest:=rfl

@[simp] theorem dataOf_cons_started (gen:ℕ) (rest:List (Callback κ δ)):
 dataOf (.started gen::rest)=dataOf rest:=rfl

@[simp] theorem dataOf_cons_recovered (gen:ℕ) (conn:κ) (rest:List (Callback κ δ)):
 dataOf (.recovered gen conn::rest)=dataOf rest:=rfl

@[simp] theorem dataOf_append (frn back:List (Callback κ δ)):dataOf (frn++back)=dataOf frn++dataOf back:=
 filterMap_append

@[simp] theorem dataOf_map_data (entries:List (Data κ δ)):dataOf (entries.map .data)=entries:=by
 induction entries with
 | nil=>rfl
 | cons en rest ih=>rw[map_cons,dataOf_cons_data,ih]

@[simp] theorem dataOf_withoutRecovered (queue:List (Callback κ δ)):dataOf (withoutRecovered queue)=dataOf queue:=by
 induction queue with
 | nil=>rfl
 | cons cb rest ih=>
  cases cb with
  | data en=>exact congrArg (en :: ·) ih
  | started | recovered=>exact ih

theorem mem_dataOf {en:Data κ δ} {queue:List (Callback κ δ)}:en∈dataOf queue ↔ .data en∈queue:=by
 induction queue with
 | nil=>simp
 | cons cb rest ih=>cases cb<;>simp[ih]

@[simp] theorem hasStarted_cons (cb:Callback κ δ) (rest:List (Callback κ δ)):
 hasStarted (cb :: rest)=(cb.isStarted || hasStarted rest):=rfl

@[simp] theorem hasStarted_append (frn back:List (Callback κ δ)):
 hasStarted (frn++back)=(hasStarted frn || hasStarted back):=any_append

@[simp] theorem hasStarted_map_data (ens:List (Data κ δ)):
 hasStarted (ens.map Callback.data)=false:=by
 induction ens with
 | nil=>rfl
 | cons en rest ih=>exact ih

@[simp] theorem hasStarted_withoutRecovered (queue:List (Callback κ δ)):
 hasStarted (withoutRecovered queue)=hasStarted queue:=by
 induction queue with
 | nil=>rfl
 | cons cb rest ih=>
  cases cb with
  | data | recovered=>exact ih
  | started=>rfl

theorem hasStarted_eq_false {qu:List (Callback κ δ)}:
 hasStarted qu=false ↔ ∀ cb∈qu,cb.isStarted=false:=by
 simp[hasStarted]

end

inductive Worker (κ δ:Type) where
 | idle
 | looping
 | running (callback:Callback κ δ)
 | ended

structure Dispatcher (κ δ:Type) where
 queue:List (Callback κ δ):=[]
 replacement:List (Data κ δ):=[]
 pendingData:Int:=0
 wake:Bool:=false
 limit:ℕ
 stopped:Bool:=false
 currentConn:Option κ:=none
 gapOpen:Bool:=false
 generation:ℕ:=0
 replacementConn:Option κ:=none
 inFlightKind:Option Kind:=none
 signals:ℕ:=0
 worker:Worker κ δ:=.idle
 delivered:List (Callback κ δ):=[]
 used:List ℕ:=[]
 ledger:Ledger (Data κ δ):={}

inductive Event (κ δ:Type) where
 | activateConnection (generation:ℕ) (conn:κ) (recovering:Bool)
 | enqueueData (conn:κ) (payloads:List δ)
 | beginGap (generation:ℕ)
 | discardReplacement (generation:ℕ) (conn:κ)
 | enqueueRecovered (generation:ℕ) (conn:κ)
 | reset
 | stop
 | signal
 | wake
 | take
 | finish

/-! ## The operations -/

def controlSlots:ℕ:=2

namespace Dispatcher
variable {κ δ:Type}

def dropReplacement (d:Dispatcher κ δ):Dispatcher κ δ:=
 {d with
   pendingData:=max 0 (d.pendingData-d.replacement.length)
   replacement:=[]
   replacementConn:=none
   ledger:=d.ledger.drop d.replacement}

def removeQueuedRecovered (d:Dispatcher κ δ):Dispatcher κ δ:={d with queue:=withoutRecovered d.queue}
def dataLimit (d:Dispatcher κ δ):ℕ:=max (d.limit-controlSlots) 1

def number (serial:ℕ) (conn:κ):List δ→List (Data κ δ)
 | []=>[]
 | payload::rest=>⟨serial,conn,payload⟩::number (serial+1) conn rest

def entries (d:Dispatcher κ δ) (conn:κ) (payloads:List δ):List (Data κ δ):=
 number d.ledger.accepted.length conn payloads

def replace (d:Dispatcher κ δ) (conn:κ):Dispatcher κ δ:=
 {d.dropReplacement.removeQueuedRecovered with currentConn:=some conn,replacementConn:=some conn}

def hold (d:Dispatcher κ δ) (conn:κ) (payloads:List δ):Dispatcher κ δ:=
 {d with
   replacementConn:=some conn
   replacement:=d.replacement++d.entries conn payloads
   pendingData:=d.pendingData+payloads.length
   ledger:=d.ledger.accept (d.entries conn payloads)}

def append (d:Dispatcher κ δ) (conn:κ) (payloads:List δ):Dispatcher κ δ:=
 {d with
   queue:=d.queue++(d.entries conn payloads).map .data
   pendingData:=d.pendingData+payloads.length
   signals:=d.signals+1
   ledger:=d.ledger.accept (d.entries conn payloads)}

def NeedsStarted (d:Dispatcher κ δ):Prop:=
 (d.gapOpen=false∨d.inFlightKind=some .recovered)∧hasStarted d.queue=false

instance (d:Dispatcher κ δ):Decidable d.NeedsStarted:=inferInstanceAs (Decidable (_∧_))

def openGap (d:Dispatcher κ δ) (generation:ℕ):Dispatcher κ δ:=
 {d.dropReplacement.removeQueuedRecovered with
   currentConn:=none
   gapOpen:=true
   generation
   queue:=if d.NeedsStarted then withoutRecovered d.queue++[.started generation] else withoutRecovered d.queue
   signals:=d.signals+1
   used:=d.used++[generation]}

def queueRecovered (d:Dispatcher κ δ) (generation:ℕ) (conn:κ):Dispatcher κ δ:=
 {d with
   queue:=withoutRecovered d.queue++[.recovered generation conn]
   signals:=d.signals+1}

def clear (d:Dispatcher κ δ):Dispatcher κ δ:=
 {d with
   queue:=[]
   replacement:=[]
   pendingData:=0
   currentConn:=none
   gapOpen:=false
   generation:=0
   replacementConn:=none
   inFlightKind:=none
   signals:=d.signals+1
   ledger:=d.ledger.drop (dataOf d.queue++d.replacement)}

section
variable [DecidableEq κ]

def activateConnection (d:Dispatcher κ δ) (generation:ℕ) (conn:κ) (recovering:Bool):Dispatcher κ δ:=
 if d.stopped then d
 else if recovering=false∨d.gapOpen=false∨d.generation≠generation then {d with currentConn:=some conn}
 else if d.replacementConn≠some conn then d.replace conn
 else {d with currentConn:=some conn}

def enqueueData (d:Dispatcher κ δ) (conn:κ) (payloads:List δ):Dispatcher κ δ×Bool:=
 if payloads.length=0 then (d,true)
 else if d.stopped=true∨d.currentConn≠some conn then (d,true)
 else if (d.dataLimit : Int)<d.pendingData+payloads.length then (d,false)
 else if d.gapOpen then
  if d.replacementConn=none∨d.replacementConn=some conn then (d.hold conn payloads,true) else (d,true)
 else (d.append conn payloads,true)

def beginGap (d:Dispatcher κ δ) (generation:ℕ):Dispatcher κ δ:=if d.stopped then d else d.openGap generation

def leave (d:Dispatcher κ δ) (conn:κ):Dispatcher κ δ:=
 {d with currentConn:=if d.currentConn=some conn then none else d.currentConn}

def discardReplacement (d:Dispatcher κ δ) (generation:ℕ) (conn:κ):Dispatcher κ δ:=
 if d.gapOpen=true∧d.generation=generation∧d.replacementConn=some conn then
  (d.leave conn).dropReplacement.removeQueuedRecovered
 else d.leave conn

def RecoveredIsCurrent (d:Dispatcher κ δ) (generation:ℕ) (conn:κ):Prop:=
 d.gapOpen=true∧d.generation=generation∧d.currentConn=some conn∧d.replacementConn=some conn

instance (d:Dispatcher κ δ) (generation:ℕ) (conn:κ):Decidable (d.RecoveredIsCurrent generation conn):=
 inferInstanceAs (Decidable (_∧_))

def enqueueRecovered (d:Dispatcher κ δ) (generation:ℕ) (conn:κ):Dispatcher κ δ×Bool:=
 if d.stopped=false∧d.RecoveredIsCurrent generation conn then (d.queueRecovered generation conn,true)
 else (d,false)

def reset (d:Dispatcher κ δ):Dispatcher κ δ:=if d.stopped then d else d.clear
def stop (d:Dispatcher κ δ):Dispatcher κ δ:=if d.stopped then d else {d.clear with stopped:=true}

def closeGap (d:Dispatcher κ δ):Dispatcher κ δ:=
 {d with
   gapOpen:=false
   generation:=0
   replacementConn:=none
   queue:=d.queue++d.replacement.map .data
   replacement:=[]}

def deliver (d:Dispatcher κ δ) (callback:Callback κ δ) (rest:List (Callback κ δ)):Dispatcher κ δ:=
 {d with
   queue:=rest
   pendingData:=if callback.kind=.data then d.pendingData-1 else d.pendingData
   inFlightKind:=some callback.kind
   worker:=.running callback
   delivered:=d.delivered++[callback]
   ledger:=(callback.data?.map d.ledger.start).getD d.ledger}

def take (d:Dispatcher κ δ):Dispatcher κ δ:=
 if d.stopped then {d with worker:=.ended}
 else match d.queue with
  | []=>{d with worker:=.idle}
  | .recovered generation conn::rest=>
   if d.RecoveredIsCurrent generation conn then d.deliver (.recovered generation conn) rest
   else {d with queue:=rest}
  | callback::rest=>d.deliver callback rest

def RunsRecovery (d:Dispatcher κ δ):Callback κ δ→Prop
 | .recovered generation conn=>d.stopped=false∧d.RecoveredIsCurrent generation conn
 | _=>False

instance (d:Dispatcher κ δ):∀ callback,Decidable (d.RunsRecovery callback)
 | .recovered generation conn=>inferInstanceAs (Decidable (d.stopped=false∧d.RecoveredIsCurrent generation conn))
 | .data _ | .started _=>.isFalse id

def finish (d:Dispatcher κ δ) (callback:Callback κ δ):Dispatcher κ δ:=
 {if d.RunsRecovery callback then d.closeGap else d with inFlightKind:=none,worker:=.looping}

end
end Dispatcher

section
variable {κ δ:Type} [DecidableEq κ]

def step (d:Dispatcher κ δ):Event κ δ→Option (Dispatcher κ δ)
 | .activateConnection generation conn recovering=>some (d.activateConnection generation conn recovering)
 | .enqueueData conn payloads=>some (d.enqueueData conn payloads).1
 | .beginGap generation=>some (d.beginGap generation)
 | .discardReplacement generation conn=>some (d.discardReplacement generation conn)
 | .enqueueRecovered generation conn=>some (d.enqueueRecovered generation conn).1
 | .reset=>some d.reset
 | .stop=>some d.stop
 | .signal=>if 0<d.signals then some {d with signals:=d.signals-1,wake:=true} else none
 | .wake=>
  match d.worker,d.wake with
  | .idle,true=>some {d with wake:=false,worker:=.looping}
  | _,_=>none
 | .take=>
  match d.worker with
  | .looping=>some d.take
  | _=>none
 | .finish=>
  match d.worker with
  | .running callback=>some (d.finish callback)
  | _=>none

/-! ## What a step can do -/

def IsWork {κ δ:Type}:Event κ δ→Prop
 | .signal | .wake | .take | .finish=>True
 | _=>False

inductive Moves (d:Dispatcher κ δ):Event κ δ→Dispatcher κ δ→Prop
 | ignored (event:Event κ δ) (hcaller:¬ IsWork event):Moves d event d
 | activated (generation:ℕ) (conn:κ) (recovering:Bool):
  Moves d (.activateConnection generation conn recovering) {d with currentConn:=some conn}
 | replaced (generation:ℕ) (conn:κ) (hopen:d.gapOpen=true) (hgeneration:d.generation=generation)
  (hother:d.replacementConn≠some conn):
  Moves d (.activateConnection generation conn true) (d.replace conn)
 | held (conn:κ) (payloads:List δ) (hopen:d.gapOpen=true) (hcurrent:d.currentConn=some conn)
  (hconn:d.replacementConn=none∨d.replacementConn=some conn):
  Moves d (.enqueueData conn payloads) (d.hold conn payloads)
 | appended (conn:κ) (payloads:List δ) (hclosed:d.gapOpen=false):
  Moves d (.enqueueData conn payloads) (d.append conn payloads)
 | gapBegun (generation:ℕ):Moves d (.beginGap generation) (d.openGap generation)
 | left (generation:ℕ) (conn:κ):Moves d (.discardReplacement generation conn) (d.leave conn)
 | discarded (generation:ℕ) (conn:κ) (hopen:d.gapOpen=true) (hgeneration:d.generation=generation)
  (hconn:d.replacementConn=some conn):
  Moves d (.discardReplacement generation conn) (d.leave conn).dropReplacement.removeQueuedRecovered
 | recovered (generation:ℕ) (conn:κ) (hcurrent:d.RecoveredIsCurrent generation conn):
  Moves d (.enqueueRecovered generation conn) (d.queueRecovered generation conn)
 | reset : Moves d .reset d.clear
 | stopped : Moves d .stop {d.clear with stopped:=true}
 | signalled : Moves d .signal {d with signals:=d.signals-1,wake:=true}
 | woken (hworker:d.worker=.idle):Moves d .wake {d with wake:=false,worker:=.looping}
 | ended (hworker:d.worker=.looping) (hstopped:d.stopped=true):Moves d .take {d with worker:=.ended}
 | rested (hworker:d.worker=.looping) (hqueue:d.queue=[]):Moves d .take {d with worker:=.idle}
 | skipped (generation:ℕ) (conn:κ) (rest:List (Callback κ δ)) (hworker:d.worker=.looping)
  (hqueue:d.queue=.recovered generation conn::rest) (hstale:¬ d.RecoveredIsCurrent generation conn):
  Moves d .take {d with queue:=rest}
 | delivered (callback:Callback κ δ) (rest:List (Callback κ δ)) (hworker:d.worker=.looping)
  (hqueue:d.queue=callback::rest)
  (hcurrent:∀ generation conn,callback=.recovered generation conn→ d.RecoveredIsCurrent generation conn):
  Moves d .take (d.deliver callback rest)
 | closed (generation:ℕ) (conn:κ) (hworker:d.worker=.running (.recovered generation conn))
  (hcurrent:d.RecoveredIsCurrent generation conn):
  Moves d .finish {d.closeGap with inFlightKind:=none,worker:=.looping}
 | returned (callback:Callback κ δ) (hworker:d.worker=.running callback) (hother:¬ d.RunsRecovery callback):
  Moves d .finish {d with inFlightKind:=none,worker:=.looping}

variable {d next:Dispatcher κ δ} {event:Event κ δ}

theorem moves_activateConnection (gen:ℕ) (conn:κ) (recovering:Bool):
 Moves d (.activateConnection gen conn recovering) (d.activateConnection gen conn recovering):=by
 unfold Dispatcher.activateConnection
 split
 · exact .ignored _ id
 · split
   · exact .activated gen conn recovering
   · next hgap=>
     simp only[not_or,Bool.not_eq_false,not_not] at hgap
     obtain ⟨rfl,hopen,hgen⟩:=hgap
     split
     · next hoth=>exact .replaced gen conn hopen hgen hoth
     · exact .activated gen conn true

theorem moves_enqueueData (conn:κ) (payloads:List δ):
 Moves d (.enqueueData conn payloads) (d.enqueueData conn payloads).1:=by
 unfold Dispatcher.enqueueData
 split
 · exact .ignored _ id
 · split
   · exact .ignored _ id
   · next hsk=>
     simp only[not_or,not_not] at hsk
     split
     · exact .ignored _ id
     · split
       · next hopen=>
         split
         · next hconn=>exact .held conn payloads hopen hsk.2 hconn
         · exact .ignored _ id
       · next hcl=>exact .appended conn payloads (by simpa using hcl)

theorem moves_take (hwk:d.worker=.looping):Moves d .take d.take:=by
 unfold Dispatcher.take
 split
 · next hsto=>exact .ended hwk hsto
 · split
   · next hq=>exact .rested hwk hq
   · next gen conn rest hq=>
     split
     · next hcurr=>
       refine .delivered _ rest hwk hq fun gen' connected' heq=>?_
       cases heq
       exact hcurr
     · next hsta=>exact .skipped gen conn rest hwk hq hsta
   · next cb rest hoth hq=>
     refine .delivered cb rest hwk hq fun gen conn heq=>?_
     exact (hoth gen conn heq).elim

theorem moves_finish (cb:Callback κ δ) (hwk:d.worker=.running cb):
 Moves d .finish (d.finish cb):=by
 unfold Dispatcher.finish
 split
 · next hruns=>
   cases cb with
   | data | started=>exact hruns.elim
   | recovered gen conn=>exact .closed gen conn hwk hruns.2
 · next hoth=>exact .returned cb hwk hoth

theorem moves_of_step (hstep:step d event=some next):Moves d event next:=by
 cases event with
 | activateConnection gen conn recovering=>
  cases hstep
  exact moves_activateConnection gen conn recovering
 | enqueueData conn payloads=>
  cases hstep
  exact moves_enqueueData conn payloads
 | beginGap gen=>
  cases hstep
  unfold Dispatcher.beginGap
  split
  · exact .ignored _ id
  · exact .gapBegun gen
 | discardReplacement gen conn=>
  cases hstep
  unfold Dispatcher.discardReplacement
  split
  · next hgap=>exact .discarded gen conn hgap.1 hgap.2.1 hgap.2.2
  · exact .left gen conn
 | enqueueRecovered gen conn=>
  cases hstep
  unfold Dispatcher.enqueueRecovered
  split
  · next hcurr=>exact .recovered gen conn hcurr.2
  · exact .ignored _ id
 | reset=>
  cases hstep
  unfold Dispatcher.reset
  split
  · exact .ignored _ id
  · exact .reset
 | stop=>
  cases hstep
  unfold Dispatcher.stop
  split
  · exact .ignored _ id
  · exact .stopped
 | signal=>
  simp only[step] at hstep
  split at hstep<;>cases hstep
  exact .signalled
 | wake=>
  simp only[step] at hstep
  split at hstep
  · next hwk _=>
    cases hstep
    exact .woken hwk
  · cases hstep
 | take=>
  simp only[step] at hstep
  split at hstep
  · next hwk=>
    cases hstep
    exact moves_take hwk
  · cases hstep
 | finish=>
  simp only[step] at hstep
  split at hstep
  · next cb hwk=>
    cases hstep
    exact moves_finish cb hwk
  · cases hstep

end

/-! ## Accounts of the data -/

section
variable {κ δ:Type} {d:Dispatcher κ δ}

theorem number_serials (serial:ℕ) (conn:κ) (payloads:List δ):
 (Dispatcher.number serial conn payloads).map (·.serial)=List.range' serial payloads.length:=by
 induction payloads generalizing serial with
 | nil=>rfl
 | cons pld rest ih=>rw[Dispatcher.number,map_cons,ih,length_cons,range'_succ]

theorem number_length (serial:ℕ) (conn:κ) (payloads:List δ):
 (Dispatcher.number serial conn payloads).length=payloads.length:=by
 have h:=congrArg List.length (number_serials serial conn payloads)
 simpa using h

theorem conn_of_mem_number {en:Data κ δ} {serial:ℕ} {conn:κ} {payloads:List δ}
 (h:en∈Dispatcher.number serial conn payloads):en.conn=conn:=by
 induction payloads generalizing serial with
 | nil=>cases h
 | cons pld rest ih=>
  cases h with
  | head=>rfl
  | tail _ h=>exact ih h

theorem le_serial_of_mem_number {en:Data κ δ} {serial:ℕ} {conn:κ} {payloads:List δ}
 (h:en∈Dispatcher.number serial conn payloads):serial≤en.serial:=by
 have hmem:en.serial∈(Dispatcher.number serial conn payloads).map (·.serial):=mem_map_of_mem h
 rw[number_serials] at hmem
 exact (mem_range'_1.mp hmem).1

structure Accounts (d:Dispatcher κ δ):Prop where
 balanced:d.ledger.Balanced (dataOf d.queue++d.replacement)
 serials:d.ledger.accepted.map (·.serial)=List.range d.ledger.accepted.length
 closed:d.gapOpen=false→ d.replacement=[]
 sockets:∀ entry∈d.replacement,d.replacementConn=some entry.conn
 delivered:dataOf d.delivered=d.ledger.started

theorem serials_accept (conn:κ) (payloads:List δ)
 (h:d.ledger.accepted.map (·.serial)=List.range d.ledger.accepted.length):
 (d.ledger.accepted++d.entries conn payloads).map (·.serial) =
  List.range (d.ledger.accepted++d.entries conn payloads).length:=by
 have hnew:(d.entries conn payloads).map (·.serial)=List.range' d.ledger.accepted.length payloads.length:=
  number_serials _ conn payloads
 rw[map_append,h,hnew,length_append,Dispatcher.entries,number_length,range_eq_range',
  range_eq_range',←range'_append_1,Nat.zero_add]

theorem dataOf_openGap (gen:ℕ):dataOf (d.openGap gen).queue=dataOf d.queue:=by
 show dataOf (if _ then _ else _)=_
 split<;>simp

namespace Accounts

theorem nodup (h:Accounts d):d.ledger.accepted.Nodup:=by
 have hseri:(d.ledger.accepted.map (·.serial)).Nodup:=by
  rw[h.serials]
  exact nodup_range
 exact hseri.of_map _

theorem serial_lt (h:Accounts d) {en:Data κ δ} (hen:en∈d.ledger.accepted):
 en.serial<d.ledger.accepted.length:=by
 have hmem:en.serial∈d.ledger.accepted.map (·.serial):=mem_map_of_mem hen
 rw[h.serials] at hmem
 exact mem_range.mp hmem

theorem dropped (h:Accounts d) {qu:List (Callback κ δ)} (hq:dataOf qu=dataOf d.queue):
 (d.ledger.drop d.replacement).Balanced (dataOf qu++[]):=by
 rw[hq,append_nil]
 exact h.balanced.drop (sublist_append_left _ _) (Perm.refl _)

theorem clear (h:Accounts d):Accounts d.clear:=
 {h with
   balanced:=h.balanced.drop (nil_sublist _) (Perm.refl _)
   closed:=fun _=>rfl
   sockets:=nofun}

theorem deliver (h:Accounts d) {cb:Callback κ δ} {rest:List (Callback κ δ)}
 (hq:d.queue=cb::rest):Accounts (d.deliver cb rest):=by
 have hbal:=h.balanced
 rw[hq] at hbal
 cases cb with
 | data en=>
  refine ⟨hbal.start,h.serials,h.closed,h.sockets,?_⟩
  show dataOf (d.delivered++[.data en])=d.ledger.started++[en]
  rw[dataOf_append,h.delivered]
  rfl
 | started gen=>
  refine ⟨hbal,h.serials,h.closed,h.sockets,?_⟩
  show dataOf (d.delivered++[.started gen])=d.ledger.started
  rw[dataOf_append,h.delivered]
  exact append_nil _
 | recovered gen conn=>
  refine ⟨hbal,h.serials,h.closed,h.sockets,?_⟩
  show dataOf (d.delivered++[.recovered gen conn])=d.ledger.started
  rw[dataOf_append,h.delivered]
  exact append_nil _

end Accounts

theorem accounts_empty (limit:ℕ):Accounts ({limit}:Dispatcher κ δ) where
 balanced:=Ledger.balanced_empty
 serials:=rfl
 closed:=fun _=>rfl
 sockets:=nofun
 delivered:=rfl

end

section
variable {κ δ:Type} [DecidableEq κ] {d next:Dispatcher κ δ} {event:Event κ δ}

theorem Accounts.of_step (h:Accounts d) (hstep:step d event=some next):Accounts next:=by
 cases moves_of_step hstep with
 | ignored=>exact h
 | activated | left | signalled | woken | ended | rested | returned=>
  exact ⟨h.balanced,h.serials,h.closed,h.sockets,h.delivered⟩
 | replaced | discarded=>exact ⟨h.dropped (dataOf_withoutRecovered _),h.serials,fun _=>rfl,nofun,h.delivered⟩
 | held conn payloads hopen hcurr hconn=>
  refine ⟨?_,serials_accept conn payloads h.serials,?_,?_,h.delivered⟩
  · show (d.ledger.accept _).Balanced (dataOf d.queue++(d.replacement++_))
    rw[←append_assoc]
    exact h.balanced.accept (d.entries conn payloads)
  · intro hcl
    cases hopen.symm.trans hcl
  · intro en hen
    obtain hold | hnew:=mem_append.mp hen
    · have hsk:=h.sockets en hold
      obtain hnone | hsame:=hconn
      · cases hnone.symm.trans hsk
      · exact hsame.symm.trans hsk
    · exact congrArg some (conn_of_mem_number hnew).symm
 | appended conn payloads hcl=>
  have hnil:=h.closed hcl
  refine ⟨?_,serials_accept conn payloads h.serials,h.closed,h.sockets,h.delivered⟩
  have hbal:=h.balanced.accept (d.entries conn payloads)
  rw[hnil,append_nil] at hbal
  show (d.ledger.accept _).Balanced (dataOf (d.queue++_)++d.replacement)
  rw[dataOf_append,dataOf_map_data,hnil,append_nil]
  exact hbal
 | gapBegun gen=>exact ⟨h.dropped (dataOf_openGap gen),h.serials,fun _=>rfl,nofun,h.delivered⟩
 | recovered=>
  refine ⟨?_,h.serials,h.closed,h.sockets,h.delivered⟩
  show d.ledger.Balanced (dataOf (withoutRecovered d.queue++[_])++d.replacement)
  rw[dataOf_append,dataOf_withoutRecovered,dataOf_cons_recovered,dataOf_nil,append_nil]
  exact h.balanced
 | reset=>exact h.clear
 | stopped=>exact ⟨h.clear.balanced,h.serials,fun _=>rfl,nofun,h.delivered⟩
 | skipped gen conn rest hwk hq=>
  have hbal:=h.balanced
  rw[hq,dataOf_cons_recovered] at hbal
  exact ⟨hbal,h.serials,h.closed,h.sockets,h.delivered⟩
 | delivered cb rest hwk hq=>exact h.deliver hq
 | closed=>
  refine ⟨?_,h.serials,fun _=>rfl,nofun,h.delivered⟩
  show d.ledger.Balanced (dataOf (d.queue++d.replacement.map .data)++[])
  rw[dataOf_append,dataOf_map_data,append_nil]
  exact h.balanced

theorem accounts_of_run {limit:ℕ} {evs:List (Event κ δ)}
 (hrun:run step ({limit}:Dispatcher κ δ) evs=some d):Accounts d:=
 invariant Accounts (fun _ _ _ h hstep=>h.of_step hstep) (accounts_empty limit) hrun

end

end BolterTrader.CallbackDispatch
