import BolterTrader.Foundations.Collections
import BolterTrader.Foundations.Table
import BolterTrader.Foundations.Transition

/-! The subscription transactions of the Hyperliquid websocket client
(`sdk/hyperliquid/ws_client.go`). -/
namespace BolterTrader.Hyperliquid.Subscriptions
open Foundations Foundations.KeyedRows Transition List Option

/-! ## The tables -/

abbrev Id:=String×String

inductive Failure where
 | multiplexed (channel:String)
 | notConnected
 | connectionChanged
 | ackPending (key:String)
 | write
 | acknowledgement

structure Tables (η π:Type) where
 subscriptions:Table Id η:={}
 subscriptionPayloads:Table Id π:={}
 subscriptionRevisions:Table Id UInt64:={}
 nextSubscriptionRev:UInt64:=0

structure SubscriptionMutation (η:Type) where
 id:Id
 revision:UInt64
 previousHandler:Option η
 previousRevision:Option UInt64

def isOpaqueAccountChannel (channel:String):Bool:=channel == "orderUpdates" || channel == "user"

namespace Tables
variable {η π:Type}

def newSubscriptionMutation (t:Tables η π) (id:Id):SubscriptionMutation η×Tables η π:=
 let revision:=t.nextSubscriptionRev+1
 (⟨id,revision,t.subscriptions.get id,t.subscriptionRevisions.get id⟩,
  {t with
    nextSubscriptionRev:=revision
    subscriptionRevisions:=t.subscriptionRevisions.put id revision})

def Multiplexes (t:Tables η π) (id:Id):Prop:=
 isOpaqueAccountChannel id.1=true∧(∃ row∈t.subscriptions.rows,row.1.1=id.1)∧t.subscriptions.get id=none

instance (t:Tables η π) (id:Id):Decidable (t.Multiplexes id):=
 match h : t.subscriptions.get id with
 | none=>decidable_of_iff (isOpaqueAccountChannel id.1=true∧∃ row∈t.subscriptions.rows,row.1.1=id.1)
  (by simp[Multiplexes,h])
 | some _=>.isFalse (by simp[Multiplexes,h])

def beginSubscription (t:Tables η π) (id:Id) (handler:η):Except Failure (SubscriptionMutation η×Tables η π):=
 if t.Multiplexes id then .error (.multiplexed id.1)
 else
  let (mutation,begun):=t.newSubscriptionMutation id
  .ok (mutation,{begun with subscriptions:=begun.subscriptions.put id handler})

def IsLatest (t:Tables η π) (mutation:SubscriptionMutation η):Prop:=
 (t.subscriptionRevisions.get mutation.id).getD 0=mutation.revision

instance (t:Tables η π) (mutation:SubscriptionMutation η):Decidable (t.IsLatest mutation):=
 inferInstanceAs (Decidable (_=_))

def rollbackSubscription (t:Tables η π) (mutation:SubscriptionMutation η):Tables η π:=
 if t.IsLatest mutation then
  {t with
    subscriptions:=t.subscriptions.restore mutation.id mutation.previousHandler
    subscriptionRevisions:=t.subscriptionRevisions.restore mutation.id mutation.previousRevision}
 else t

def commitSubscriptionPayload (t:Tables η π) (mutation:SubscriptionMutation η) (subscription:π):Tables η π:=
 if t.IsLatest mutation then
  {t with subscriptionPayloads:=t.subscriptionPayloads.put mutation.id subscription}
 else t

def commitUnsubscription (t:Tables η π) (mutation:SubscriptionMutation η):Tables η π:=
 if t.IsLatest mutation then
  {t with
    subscriptionPayloads:=t.subscriptionPayloads.erase mutation.id
    subscriptionRevisions:=t.subscriptionRevisions.erase mutation.id}
 else t

def beginUnsubscription (t:Tables η π) (id:Id):SubscriptionMutation η×Tables η π:=
 let (mutation,begun):=t.newSubscriptionMutation id
 (mutation,{begun with subscriptions:=begun.subscriptions.erase id})

end Tables

/-! ## The calls -/

structure Surroundings where
 lostBeforeRegister:Bool:=false
 ackPending:Bool:=false
 lostBeforeSend:Bool:=false
 lostBeforeWrite:Bool:=false
 written:Bool:=true
 lostAfterWrite:Bool:=false
 acknowledged:Bool:=true
 lostAfterwards:Bool:=false

section
variable {κ η π:Type}

def lose (lost:Bool) (current:Option κ):Option κ:=if lost then none else current

structure Client (κ η π:Type) where
 conn:Option κ:=none
 tables:Tables η π:={}

def subscriptionKey (text:π→String):Option π→String
 | none => "__default__"
 | some payload=>text payload

variable [DecidableEq κ]

def ensureCurrentConnection (current conn:Option κ):Option Failure:=
 if conn=none then some .notConnected else if current≠conn then some .connectionChanged else none

def isCurrentConnection (current conn:Option κ):Bool:=conn≠none && current=conn

def sendCommandOn (current conn:Option κ) (around:Surroundings):Option κ×Option Failure:=
 let checked:=lose around.lostBeforeSend current
 match ensureCurrentConnection checked conn with
 | some failure=>(checked,some failure)
 | none=>
  let locked:=lose around.lostBeforeWrite checked
  match ensureCurrentConnection locked conn with
  | some failure=>(locked,some failure)
  | none=>
   if around.written then
    let sent:=lose around.lostAfterWrite locked
    (sent,ensureCurrentConnection sent conn)
   else (locked,some .write)

def registerSubscriptionAck (current conn:Option κ) (key:String) (around:Surroundings):
 Option κ×Option Failure:=
 let checked:=lose around.lostBeforeRegister current
 if conn=none∨checked≠conn then (checked,some .connectionChanged)
 else if around.ackPending then (checked,some (.ackPending key))
 else (checked,none)

def waitSubscriptionAck (current:Option κ) (around:Surroundings):Option κ×Option Failure:=
 (lose around.lostAfterwards current,if around.acknowledged then none else some .acknowledgement)

def confirmOn (current conn:Option κ) (key:String) (around:Surroundings):Option κ×Option Failure:=
 match registerSubscriptionAck current conn key around with
 | (current,some failure)=>(current,some failure)
 | (current,none)=>
  match sendCommandOn current conn around with
  | (current,some failure)=>(current,some failure)
  | (current,none)=>waitSubscriptionAck current around

def settle (tables:Tables η π) (mutation:SubscriptionMutation η) (subscription:π):
  Option κ×Option Failure→Client κ η π×Option Failure
 | (conn,some failure)=>({conn,tables:=tables.rollbackSubscription mutation},some failure)
 | (conn,none)=>({conn,tables:=tables.commitSubscriptionPayload mutation subscription},none)

variable (text:π→String)

def subscribeWith (wire:Option κ→Option κ→String→Surroundings→Option κ×Option Failure) (c:Client κ η π)
 (channel:String) (subscription:Option π) (handler:η) (around:Surroundings):
 Client κ η π×Option Failure:=
 let key:=subscriptionKey text subscription
 match c.tables.beginSubscription (channel,key) handler with
 | .error failure=>(c,some failure)
 | .ok (mutation,tables)=>
  match subscription with
  | none=>({c with tables},none)
  | some payload=>settle tables mutation payload (wire c.conn c.conn key around)

def subscribe (c:Client κ η π) (channel:String) (subscription:Option π) (handler:η) (around:Surroundings):
 Client κ η π×Option Failure:=
 subscribeWith text (fun current conn _ around=>sendCommandOn current conn around) c channel subscription handler around

def subscribeConfirmed (c:Client κ η π) (channel:String) (subscription:Option π) (handler:η)
 (around:Surroundings):Client κ η π×Option Failure:=
 subscribeWith text confirmOn c channel subscription handler around

def unsubscribe (c:Client κ η π) (channel:String) (subscription:Option π) (around:Surroundings):
 Client κ η π×Option Failure:=
 let (mutation,tables):=c.tables.beginUnsubscription (channel,subscriptionKey text subscription)
 match subscription with
 | none=>({c with tables:=tables.commitUnsubscription mutation},none)
 | some _=>
  match sendCommandOn c.conn c.conn around with
  | (current,some failure)=>
   let conn:=lose around.lostAfterwards current
   if isCurrentConnection conn c.conn then ({conn,tables:=tables.rollbackSubscription mutation},some failure)
   else ({conn,tables:=tables.commitUnsubscription mutation},some failure)
  | (conn,none)=>({conn,tables:=tables.commitUnsubscription mutation},none)

/-! ## Replay -/

def replay (conn:κ) (around:Id→Surroundings):
  Option κ→List (Id×π)→Option κ×List (Id×π)×Option Failure
 | current,[]=>(current,[],ensureCurrentConnection current (some conn))
 | current,payload::rest=>
  match confirmOn current (some conn) payload.1.2 (around payload.1) with
  | (current,some failure)=>(current,[],some failure)
  | (current,none)=>
   let (current,replayed,failure):=replay conn around current rest
   (current,payload::replayed,failure)

def resubscribeAllOn (c:Client κ η π) (conn:κ) (order:RangeOrder) (around:Id→Surroundings):
 Option κ×List (Id×π)×Option Failure:=
 match ensureCurrentConnection c.conn (some conn) with
 | some failure=>(c.conn,[],some failure)
 | none=>replay conn around c.conn (order.visit c.tables.subscriptionPayloads.rows)

def connect (c:Client κ η π) (conn:κ) (order:RangeOrder) (around:Id→Surroundings):
 Client κ η π×Option Failure:=
 if c.conn≠none then (c,none)
 else
  match resubscribeAllOn {c with conn:=some conn} conn order around with
  | (_,_,some failure)=>({c with conn:=none},some failure)
  | (current,_,none)=>({c with conn:=current},none)

end

/-! ## What the table operations do -/

namespace Tables
variable {η π:Type} {t begun:Tables η π} {id:Id} {mutation:SubscriptionMutation η}

def Same (t other:Tables η π):Prop:=
 ∀ id,t.subscriptions.get id=other.subscriptions.get id∧
  t.subscriptionPayloads.get id=other.subscriptionPayloads.get id∧
  t.subscriptionRevisions.get id=other.subscriptionRevisions.get id

theorem Same.refl (t:Tables η π):Same t t:=fun _=>⟨rfl,rfl,rfl⟩

structure Begun (t:Tables η π) (id:Id) (mutation:SubscriptionMutation η) (begun:Tables η π):Prop where
 entry:mutation.id=id
 latest:begun.IsLatest mutation
 previousHandler:mutation.previousHandler=t.subscriptions.get id
 previousRevision:mutation.previousRevision=t.subscriptionRevisions.get id
 payloads:begun.subscriptionPayloads=t.subscriptionPayloads
 others:∀ other,other≠id→ begun.subscriptions.get other=t.subscriptions.get other∧
  begun.subscriptionRevisions.get other=t.subscriptionRevisions.get other

theorem begun_new (t:Tables η π) (id:Id) (subscriptions:Table Id η)
  (hos:∀ other,other≠id→ subscriptions.get other=t.subscriptions.get other):
  Begun t id (t.newSubscriptionMutation id).1 {(t.newSubscriptionMutation id).2 with subscriptions} where
 entry:=rfl
 latest:=by simp[IsLatest,newSubscriptionMutation]
 previousHandler:=rfl
 previousRevision:=rfl
 payloads:=rfl
 others:=fun other hne=>⟨hos other hne,Table.get_put_of_ne hne _ _⟩

theorem begun_of_beginSubscription {handler:η} (h:t.beginSubscription id handler=.ok (mutation,begun)):
 Begun t id mutation begun:=by
 unfold beginSubscription at h
 split at h<;>cases h
 exact begun_new t id _ fun _ hne=>Table.get_put_of_ne hne _ _

theorem begun_beginUnsubscription (t:Tables η π) (id:Id):
 Begun t id (t.beginUnsubscription id).1 (t.beginUnsubscription id).2:=
 begun_new t id _ fun _ hne=>Table.get_erase_of_ne hne _

namespace Begun

theorem rollback (h:Begun t id mutation begun):Same (begun.rollbackSubscription mutation) t:=by
 obtain ⟨rfl,hlat,hhd,hrev,hpay,hos⟩:=h
 rw[rollbackSubscription,if_pos hlat]
 intro other
 refine ⟨?_,by rw[hpay],?_⟩
 · by_cases hoth:other=mutation.id
   · rw[hoth,Table.get_restore_self,hhd]
   · rw[Table.get_restore_of_ne hoth]
     exact (hos other hoth).1
 · by_cases hoth:other=mutation.id
   · rw[hoth,Table.get_restore_self,hrev]
   · rw[Table.get_restore_of_ne hoth]
     exact (hos other hoth).2

theorem payloads_commit (h:Begun t id mutation begun) (subscription:π) (other:Id):
 (begun.commitSubscriptionPayload mutation subscription).subscriptionPayloads.get other =
  if id=other then some subscription else t.subscriptionPayloads.get other:=by
 obtain ⟨rfl,hlat,-,-,hpay,-⟩:=h
 rw[commitSubscriptionPayload,if_pos hlat,←hpay]
 exact Table.get_put _ _ _ _

theorem payloads_uncommit (h:Begun t id mutation begun) (other:Id):
 (begun.commitUnsubscription mutation).subscriptionPayloads.get other =
  if other=id then none else t.subscriptionPayloads.get other:=by
 obtain ⟨rfl,hlat,-,-,hpay,-⟩:=h
 rw[commitUnsubscription,if_pos hlat,←hpay]
 exact Table.get_erase _ _ _

end Begun

structure Removed (t:Tables η π) (id:Id) (next:Tables η π):Prop where
 entry:next.subscriptions.get id=none∧next.subscriptionPayloads.get id=none∧
  next.subscriptionRevisions.get id=none
 others:∀ other,other≠id→ next.subscriptions.get other=t.subscriptions.get other∧
  next.subscriptionPayloads.get other=t.subscriptionPayloads.get other∧
  next.subscriptionRevisions.get other=t.subscriptionRevisions.get other

theorem removed_unsubscription (t:Tables η π) (id:Id):
 Removed t id ((t.beginUnsubscription id).2.commitUnsubscription (t.beginUnsubscription id).1):=by
 have hbg:=begun_beginUnsubscription t id
 have hpay:=hbg.payloads_uncommit
 rw[commitUnsubscription,if_pos hbg.latest] at hpay ⊢
 constructor
 · refine ⟨Table.get_erase_self _ _,?_,Table.get_erase_self _ _⟩
   rw[hpay,if_pos rfl]
 · intro other hne
   refine ⟨(hbg.others other hne).1,?_,?_⟩
   · rw[hpay,if_neg hne]
   · exact (Table.get_erase_of_ne hne _).trans (hbg.others other hne).2

end Tables

/-! ## Runs of calls -/

inductive Event (κ η π:Type) where
 | subscribe (channel:String) (subscription:Option π) (handler:η) (around:Surroundings)
 | subscribeConfirmed (channel:String) (subscription:Option π) (handler:η) (around:Surroundings)
 | unsubscribe (channel:String) (subscription:Option π) (around:Surroundings)
 | lose
 | connect (conn:κ) (order:RangeOrder) (around:Id→Surroundings)

section
variable {κ η π:Type} [DecidableEq κ] (text:π→String)

def perform (c:Client κ η π):Event κ η π→Client κ η π×Option Failure
 | .subscribe channel subscription handler around=>subscribe text c channel subscription handler around
 | .subscribeConfirmed channel subscription handler around=>
  subscribeConfirmed text c channel subscription handler around
 | .unsubscribe channel subscription around=>unsubscribe text c channel subscription around
 | .lose=>({c with conn:=none},none)
 | .connect conn order around=>connect c conn order around

def SocketGone (c:Client κ η π) (next:Client κ η π):Prop:=c.conn=none∨next.conn≠c.conn

instance (c next:Client κ η π):Decidable (SocketGone c next):=inferInstanceAs (Decidable (_∨_))

def effective (c:Client κ η π) (event:Event κ η π):Option (Id×Option π):=
 match event with
 | .subscribe channel (some payload) _ _ | .subscribeConfirmed channel (some payload) _ _=>
  if (perform text c event).2=none then some ((channel,text payload),some payload) else none
 | .unsubscribe channel subscription _=>
  if (perform text c event).2=none∨SocketGone c (perform text c event).1 then
   some ((channel,subscriptionKey text subscription),none)
  else none
 | _=>none

structure World (κ η π:Type) where
 client:Client κ η π:={}
 history:List (Id×Option π):=[]

def step (w:World κ η π) (event:Event κ η π):Option (World κ η π):=
 some ⟨(perform text w.client event).1,w.history++(effective text w.client event).toList⟩

def World.last (w:World κ η π) (id:Id):Option (Option π):=(last? Prod.fst w.history id).map Prod.snd

/-! ## What the calls do -/

variable {text:π→String} {c:Client κ η π} {channel:String} {around:Surroundings} {handler:η}
 {wire:Option κ→Option κ→String→Surroundings→Option κ×Option Failure}

omit [DecidableEq κ] in
theorem settle_failed {t tables:Tables η π} {id:Id} {mutation:SubscriptionMutation η} {payload:π}
 {outcome:Option κ×Option Failure} {failure:Failure} (hbg:t.Begun id mutation tables)
 (h:(settle tables mutation payload outcome).2=some failure):
 (settle tables mutation payload outcome).1.tables.Same t:=by
 obtain ⟨conn,failed⟩:=outcome
 cases failed with
 | some=>exact hbg.rollback
 | none=>cases h

omit [DecidableEq κ] in
theorem settle_payloads {t tables:Tables η π} {id:Id} {mutation:SubscriptionMutation η} {payload:π}
 {outcome:Option κ×Option Failure} (hbg:t.Begun id mutation tables)
 (h:(settle tables mutation payload outcome).2=none) (other:Id):
 (settle tables mutation payload outcome).1.tables.subscriptionPayloads.get other =
  if id=other then some payload else t.subscriptionPayloads.get other:=by
 obtain ⟨conn,failed⟩:=outcome
 cases failed with
 | some=>cases h
 | none=>exact hbg.payloads_commit payload other

omit [DecidableEq κ] in
theorem subscribeWith_failed {subscription:Option π} {failure:Failure}
 (h:(subscribeWith text wire c channel subscription handler around).2=some failure):
 (subscribeWith text wire c channel subscription handler around).1.tables.Same c.tables:=by
 unfold subscribeWith at h ⊢
 dsimp only at h ⊢
 cases hbeg : c.tables.beginSubscription (channel,subscriptionKey text subscription) handler with
 | error=>exact Tables.Same.refl _
 | ok begun=>
  obtain ⟨mutation,tables⟩:=begun
  have hbg:=Tables.begun_of_beginSubscription hbeg
  grind [settle_failed]

omit [DecidableEq κ] in
theorem subscribeWith_payloads {subscription:Option π}
  (h:(subscribeWith text wire c channel subscription handler around).2=none) (other:Id):
  (subscribeWith text wire c channel subscription handler around).1.tables.subscriptionPayloads.get other =
   match subscription with
   | some payload=>if (channel,text payload)=other then some payload else c.tables.subscriptionPayloads.get other
   | none=>c.tables.subscriptionPayloads.get other:=by
 unfold subscribeWith at h ⊢
 dsimp only at h ⊢
 cases hbeg : c.tables.beginSubscription (channel,subscriptionKey text subscription) handler with
 | error=>
  rw[hbeg] at h
  cases h
 | ok begun=>
  obtain ⟨mutation,tables⟩:=begun
  have hbg:=Tables.begun_of_beginSubscription hbeg
  rw[hbeg] at h
  cases subscription with
  | none=>
   show tables.subscriptionPayloads.get other=_
   rw[hbg.payloads]
  | some=>exact settle_payloads hbg h other

theorem socketGone_iff {next:Client κ η π}:SocketGone c next ↔ isCurrentConnection next.conn c.conn=false:=by
 simp only[SocketGone,isCurrentConnection,Bool.and_eq_false_iff,decide_eq_false_iff_not,not_not]

theorem unsubscribe_cases (text:π→String) (c:Client κ η π) (channel:String) (subscription:Option π) (around:Surroundings):
 ((unsubscribe text c channel subscription around).2=none∨
   SocketGone c (unsubscribe text c channel subscription around).1)∧
  c.tables.Removed (channel,subscriptionKey text subscription) (unsubscribe text c channel subscription around).1.tables∨
 (∃ failure,(unsubscribe text c channel subscription around).2=some failure)∧
  ¬ SocketGone c (unsubscribe text c channel subscription around).1∧
  (unsubscribe text c channel subscription around).1.tables.Same c.tables:=by
 have hbg:=Tables.begun_beginUnsubscription c.tables (channel,subscriptionKey text subscription)
 have hrem:=Tables.removed_unsubscription c.tables (channel,subscriptionKey text subscription)
 unfold unsubscribe
 dsimp only
 cases subscription with
 | none=>exact .inl ⟨.inl rfl,hrem⟩
 | some=>
  dsimp only
  obtain ⟨current,failed⟩:=sendCommandOn c.conn c.conn around
  cases failed with
  | none=>exact .inl ⟨.inl rfl,hrem⟩
  | some failure=>
   dsimp only
   split
   · next hcurr=>
     refine .inr ⟨⟨failure,rfl⟩,?_,hbg.rollback⟩
     grind [socketGone_iff]
   all_goals grind [socketGone_iff.mpr]

theorem connect_tables (conn:κ) (order:RangeOrder) (around:Id→Surroundings):
 (connect c conn order around).1.tables=c.tables:=by
 grind [connect]

/-! ## Replay -/

theorem replay_replayed (conn:κ) (around:Id→Surroundings) (payloads:List (Id×π)) (current:Option κ):
 (replay conn around current payloads).2.1 <+: payloads∧
  ((replay conn around current payloads).2.2=none→(replay conn around current payloads).2.1=payloads):=by
 induction payloads generalizing current with
 | nil=>exact ⟨prefix_refl _,fun _=>rfl⟩
 | cons payload rest ih=>
  unfold replay
  grind

theorem resubscribeAllOn_replayed (c:Client κ η π) (conn:κ) (order:RangeOrder) (around:Id→Surroundings):
 (resubscribeAllOn c conn order around).2.1.Subperm c.tables.subscriptionPayloads.rows∧
  ((resubscribeAllOn c conn order around).2.2=none →
   (resubscribeAllOn c conn order around).2.1.Perm c.tables.subscriptionPayloads.rows):=by
 have hvis:=order.perm c.tables.subscriptionPayloads.rows
 unfold resubscribeAllOn
 cases ensureCurrentConnection c.conn (some conn) with
 | some=>exact ⟨nil_subperm,nofun⟩
 | none=>
  obtain ⟨hfst,hall⟩:=replay_replayed conn around (order.visit c.tables.subscriptionPayloads.rows) c.conn
  refine ⟨hfst.sublist.subperm.trans hvis.subperm,fun hok=>?_⟩
  rw[hall hok]
  exact hvis

/-! ## Every serialized sequence -/

def PayloadsFollow (w:World κ η π):Prop:=∀ id,w.client.tables.subscriptionPayloads.get id=(w.last id).join

omit [DecidableEq κ] in
theorem last_append (w:World κ η π) (client:Client κ η π) (id other:Id) (operation:Option π):
 (⟨client,w.history++[(id,operation)]⟩ : World κ η π).last other =
  if id=other then some operation else w.last other:=by
 grind [World.last,last?_concat]

omit [DecidableEq κ] in
theorem PayloadsFollow.keep {w:World κ η π} {client:Client κ η π} (h:PayloadsFollow w)
 (hsame:∀ id,client.tables.subscriptionPayloads.get id=w.client.tables.subscriptionPayloads.get id):
 PayloadsFollow ⟨client,w.history++(none:Option (Id×Option π)).toList⟩:=by
 intro id
 rw[toList_none,append_nil]
 exact (hsame id).trans (h id)

omit [DecidableEq κ] in
theorem subscribeWith_follows {w:World κ η π} (h:PayloadsFollow w) {payload:π}:
 PayloadsFollow ⟨(subscribeWith text wire w.client channel (some payload) handler around).1,
  w.history++(if (subscribeWith text wire w.client channel (some payload) handler around).2=none then
   some ((channel,text payload),some payload) else none).toList⟩:=by
 intro other
 cases hf : (subscribeWith text wire w.client channel (some payload) handler around).2 with
 | none=>
  rw[if_pos rfl,toList_some,last_append,subscribeWith_payloads hf other,h other]
  grind
 | some=>
  rw[if_neg nofun]
  exact h.keep (fun id=>(subscribeWith_failed hf id).2.1) other

omit [DecidableEq κ] in
theorem subscribeWith_none_follows {w:World κ η π} (h:PayloadsFollow w)
 (wire:Option κ→Option κ→String→Surroundings→Option κ×Option Failure) (around:Surroundings):
 PayloadsFollow ⟨(subscribeWith text wire w.client channel none handler around).1,
  w.history++(none:Option (Id×Option π)).toList⟩:=by
 refine h.keep fun id=>?_
 cases hf : (subscribeWith text wire w.client channel none handler around).2 with
 | none=>exact subscribeWith_payloads hf id
 | some=>exact (subscribeWith_failed hf id).2.1

theorem PayloadsFollow.of_step {w next:World κ η π} {event:Event κ η π} (h:PayloadsFollow w)
 (hstep:step text w event=some next):PayloadsFollow next:=by
 cases hstep
 cases event with
 | subscribe channel subscription handler around=>
  cases subscription with
  | some=>exact subscribeWith_follows h
  | none=>exact subscribeWith_none_follows h (fun current conn _ around=>sendCommandOn current conn around) around
 | subscribeConfirmed channel subscription handler around=>
  cases subscription with
  | some=>exact subscribeWith_follows h
  | none=>exact subscribeWith_none_follows h confirmOn around
 | unsubscribe channel subscription around=>
  obtain ⟨heff,hrem⟩ | ⟨⟨failure,hf⟩,hsta,hsame⟩:=unsubscribe_cases text w.client channel subscription around
  · have hsome:effective text w.client (.unsubscribe channel subscription around : Event κ η π) =
     some ((channel,subscriptionKey text subscription),none):=if_pos heff
    intro other
    rw[hsome,toList_some,last_append]
    by_cases hoth:(channel,subscriptionKey text subscription)=other
    · rw[if_pos hoth,←hoth]
      exact hrem.entry.2.1
    · rw[if_neg hoth]
      exact ((hrem.others other (Ne.symm hoth)).2.1).trans (h other)
  · have hnone:effective text w.client (.unsubscribe channel subscription around : Event κ η π)=none:=by
     refine if_neg fun heff=>?_
     obtain hok | hgone:=heff
     · cases hok.symm.trans hf
     · exact hsta hgone
    rw[hnone]
    exact h.keep fun id=>(hsame id).2.1
 | lose=>exact h.keep fun _=>rfl
 | connect conn order around=>
  refine h.keep fun id=>?_
  show (connect w.client conn order around).1.tables.subscriptionPayloads.get id=_
  rw[connect_tables]

/-- What failed calls restore and what a new socket replays. -/
structure Transactional (κ η π:Type) [DecidableEq κ] (text:π→String):Prop where
 restored:∀ (events:List (Event κ η π)) w event failure,run (step text) {} events=some w →
  (perform text w.client event).2=some failure →
  (∀ channel subscription around,event=.unsubscribe channel subscription around →
   ¬ SocketGone w.client (perform text w.client event).1) →
  (perform text w.client event).1.tables.Same w.client.tables
 removed:∀ (events:List (Event κ η π)) w channel subscription around failure,
  run (step text) {} events=some w→(unsubscribe text w.client channel subscription around).2=some failure →
  SocketGone w.client (unsubscribe text w.client channel subscription around).1 →
  w.client.tables.Removed (channel,subscriptionKey text subscription)
   (unsubscribe text w.client channel subscription around).1.tables
 replayed:∀ (events:List (Event κ η π)) w (conn:κ) order around,run (step text) {} events=some w →
  (resubscribeAllOn {w.client with conn:=some conn} conn order around).2.1.Nodup∧
  (∀ id payload,(id,payload)∈(resubscribeAllOn {w.client with conn:=some conn} conn order around).2.1 →
   w.last id=some (some payload))∧
  ((resubscribeAllOn {w.client with conn:=some conn} conn order around).2.2=none →
   ∀ id payload,w.last id=some (some payload) →
    (id,payload)∈(resubscribeAllOn {w.client with conn:=some conn} conn order around).2.1)

theorem perform_restored {event:Event κ η π} {failure:Failure} (hf:(perform text c event).2=some failure)
 (hsta:∀ channel subscription around,event=.unsubscribe channel subscription around →
  ¬ SocketGone c (perform text c event).1):(perform text c event).1.tables.Same c.tables:=by
 cases event with
 | subscribe | subscribeConfirmed=>exact subscribeWith_failed hf
 | unsubscribe channel subscription around=>
  obtain ⟨heff,-⟩ | ⟨-,-,hsame⟩:=unsubscribe_cases text c channel subscription around
  · obtain hok | hgone:=heff
    · cases hok.symm.trans hf
    · exact (hsta channel subscription around rfl hgone).elim
  · exact hsame
 | lose=>cases hf
 | connect conn order around=>
  show (connect c conn order around).1.tables.Same c.tables
  rw[connect_tables]
  exact Tables.Same.refl _

omit [DecidableEq κ] in
theorem mem_payloads_iff {w:World κ η π} (h:PayloadsFollow w) {id:Id} {payload:π}:
 (id,payload)∈w.client.tables.subscriptionPayloads.rows ↔ w.last id=some (some payload):=by
 rw[Table.mem_rows,h id,join_eq_some_iff]

/-- A failed call leaves handlers and subscriptions as they were. -/
theorem client_transactional (κ η π:Type) [DecidableEq κ] (text:π→String):Transactional κ η π text where
 restored:=fun events w event failure _ hfailed hstays=>perform_restored hfailed hstays
 removed:=by
  intro events w channel subscription around failure _ hfailed hgone
  obtain ⟨-,hrem⟩ | ⟨-,hstays,-⟩:=unsubscribe_cases text w.client channel subscription around
  · exact hrem
  · exact absurd hgone hstays
 replayed:=by
  intro events w conn order around hrun
  have hfol:PayloadsFollow w:=invariant PayloadsFollow (fun _ _ _ h hstep=>h.of_step hstep) (fun _=>rfl) hrun
  obtain ⟨hpart,hall⟩:=resubscribeAllOn_replayed {w.client with conn:=some conn} conn order around
  have hnd:w.client.tables.subscriptionPayloads.rows.Nodup:=
   w.client.tables.subscriptionPayloads.unique.of_map _
  refine ⟨nodup_of_subperm hpart hnd,fun id payload hmem=>?_,fun hok id payload hlast=>?_⟩
  · exact (mem_payloads_iff hfol).mp (hpart.subset hmem)
  all_goals grind [mem_payloads_iff]

end

theorem subscription_without_payload_not_replayed :
 ∃ w next:World ℕ ℕ String,run (step id) {} [.connect 1 .listed fun _=>{}]=some w∧
  (perform id w.client (.subscribe "allMids" none 7 {})).2=none∧
  step id w (.subscribe "allMids" none 7 {})=some next∧
  next.client.tables.subscriptions.get ("allMids","__default__")=some 7∧
  (resubscribeAllOn {next.client with conn:=some 2} 2 .listed fun _=>{}).2=([],none):=
 ⟨_,_,rfl,rfl,rfl,rfl,rfl⟩

end BolterTrader.Hyperliquid.Subscriptions
