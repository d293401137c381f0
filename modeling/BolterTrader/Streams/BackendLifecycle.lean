import BolterTrader.Foundations.Collections
import BolterTrader.Foundations.KeyedRows
import BolterTrader.Foundations.Threads
import BolterTrader.Foundations.Transition

/-! The lifecycle that tells the streams of a backend about gaps and recoveries
(`exchange/internal/factoryclient/backend_lifecycle.go`). -/
namespace BolterTrader.Streams.BackendLifecycle
open Foundations Foundations.KeyedRows Foundations.Threads Foundations.Transition List Option

inductive State where
 | gap | resyncing | active
 deriving DecidableEq

structure Status where
 state:State
 generation:UInt64
 deriving DecidableEq

inductive Delivery where
 | status (sink:ℕ) (status:Status)
 | markResync (sink:ℕ)

structure Lifecycle where
 generation:UInt64:=0
 gap:Bool:=false
 sinks:List (String×ℕ):=[]
 keys:List String:=[]
 released:List ℕ:=[]
 calls:List (List Delivery):=[]
 log:List Delivery:=[]
 -- the registrations of the last publication
 reached:List ℕ:=[]

inductive Event where
 | register (key:String)
 | unregister (registration:ℕ)
 | started (order:RangeOrder)
 | recovered (order:RangeOrder)
 | deliver (call:ℕ)

namespace Lifecycle

def snapshotLocked (d:Lifecycle) (order:RangeOrder):List ℕ:=(order.visit d.sinks).map Prod.snd

def register (d:Lifecycle) (key:String):Lifecycle:=
 {d with sinks:=put Prod.fst d.sinks (key,d.keys.length),keys:=d.keys++[key]}

def unregister (d:Lifecycle) (i:ℕ) (key:String):Lifecycle:=
 if i∈d.released then d else {d with sinks:=erase Prod.fst d.sinks key,released:=i::d.released}

def started (d:Lifecycle) (order:RangeOrder):Lifecycle:=
 if d.gap then d
 else
  {d with
    generation:=d.generation+1
    gap:=true
    calls:=d.calls++[(d.snapshotLocked order).map fun i=>.status i ⟨.gap,d.generation+1⟩]
    reached:=d.sinks.map Prod.snd}

def recovery (sinks:List ℕ) (generation:UInt64):List Delivery:=
 (sinks.map fun i=>.status i ⟨.resyncing,generation⟩)++sinks.map .markResync ++
  sinks.map fun i=>.status i ⟨.active,generation⟩

def recovered (d:Lifecycle) (order:RangeOrder):Lifecycle:=
 if !d.gap then d
 else
  {d with
    gap:=false
    calls:=d.calls++[recovery (d.snapshotLocked order) d.generation]
    reached:=d.sinks.map Prod.snd}

end Lifecycle

def step (d:Lifecycle):Event→Option Lifecycle
 | .register key=>some (d.register key)
 | .unregister i=>d.keys[i]?.map (d.unregister i)
 | .started order=>some (d.started order)
 | .recovered order=>some (d.recovered order)
 | .deliver k=>
  match d.calls[k]? with
  | some (first::rest)=>some {d with calls:=d.calls.set k rest,log:=d.log++[first]}
  | _=>none

def Publishes (d:Lifecycle):Event→Prop
 | .started _=>d.gap=false
 | .recovered _=>d.gap=true
 | _=>False

def Lifecycle.mapped (d:Lifecycle):List ℕ:=d.sinks.map Prod.snd

/-! ## Statuses of one sink -/

def Delivery.to (i:ℕ):Delivery→Option Status
 | .status sink told=>if sink=i then some told else none
 | .markResync _=>none

def toldIn (i:ℕ) (deliveries:List Delivery):List Status:=deliveries.filterMap (Delivery.to i)
def Lifecycle.current (d:Lifecycle):Status:=⟨if d.gap then .gap else .active,d.generation⟩
def Lifecycle.Returned (d:Lifecycle):Prop:=∀ call∈d.calls,call=[]

/-- What a sink was told last: the state of the backend, unless it was registered after the last publication. -/
def Lifecycle.expected (d : Lifecycle) (i : ℕ) : Option Status :=
  if i ∈ d.reached then some d.current else none

/-- Every registered sink was last told what it had to be told last. -/
def Lifecycle.Agrees (d : Lifecycle) : Prop := ∀ i ∈ d.mapped, (toldIn i d.log).getLast? = d.expected i

/-- Nothing is published while a call still has a status for a registered sink. -/
def Alone (d:Lifecycle) (event:Event):Prop:=Publishes d event → ∀ i∈d.mapped,∀ call∈d.calls,toldIn i call=[]

structure Inv (d:Lifecycle):Prop where
 numbered:∀ i∈d.mapped,i<d.keys.length
 known:∀ i∈d.reached,i<d.keys.length
 fresh:∀ i,d.keys.length≤ i→ toldIn i (d.log++d.calls.flatten)=[]
 single:∀ i∈d.mapped,d.calls.Pairwise fun a b=>toldIn i a=[]∨toldIn i b=[]
 agree:∀ i∈d.mapped,(toldIn i (d.log++d.calls.flatten)).getLast?=d.expected i

section
variable {d next:Lifecycle} {i:ℕ}

@[simp] theorem toldIn_append (a b:List Delivery):toldIn i (a++b)=toldIn i a++toldIn i b:=filterMap_append

theorem toldIn_statuses (sinks:List ℕ) (status:Status):
 toldIn i (sinks.map fun sink=>.status sink status)=List.replicate (sinks.count i) status:=by
 induction sinks with
 | nil=>rfl
 | cons sink rest ih=>
  rw[map_cons,toldIn,filterMap_cons,←toldIn,ih]
  by_cases hsink:sink=i<;>simp[Delivery.to,hsink,replicate_succ]

theorem toldIn_recovery (sinks:List ℕ) (generation:UInt64):
 toldIn i (Lifecycle.recovery sinks generation)=List.replicate (sinks.count i) ⟨.resyncing,generation⟩ ++
  List.replicate (sinks.count i) ⟨.active,generation⟩:=by
 have hmrk:toldIn i (sinks.map .markResync)=[]:=by simp[toldIn,Delivery.to]
 grind [Lifecycle.recovery,toldIn_append,toldIn_statuses]

theorem mem_snapshotLocked {order:RangeOrder}:i∈d.snapshotLocked order ↔ i∈d.mapped:=
 ((order.perm d.sinks).map Prod.snd).mem_iff

theorem publish_eq {event:Event} (hpub:Publishes d event) (hstep:step d event=some next):
 ∃ call,next = {d with gap:=next.gap,generation:=next.generation,calls:=d.calls++[call],reached:=d.mapped}∧
  next.gap = !d.gap∧(∀ i∈d.mapped,(toldIn i call).getLast?=some next.current)∧
  ∀ i,i∉d.mapped→ toldIn i call=[]:=by
 have hsome (order:RangeOrder) {i:ℕ} (hi:i∈d.mapped):(d.snapshotLocked order).count i≠0:=
  Nat.ne_of_gt (count_pos_iff.mpr (mem_snapshotLocked.mpr hi))
 have hnone (order:RangeOrder) {i:ℕ} (hi:i∉d.mapped):(d.snapshotLocked order).count i=0:=
  count_eq_zero.mpr fun hmem=>hi (mem_snapshotLocked.mp hmem)
 cases event with
 | register _ | unregister _ | deliver _=>exact hpub.elim
 | started order=>
  have hgap:d.gap=false:=hpub
  cases hstep
  have hnext:d.started order=_:=if_neg (by simp[hgap])
  rw[hnext]
  refine ⟨_,rfl,by rw[hgap]; rfl,fun i hi=>?_,fun i hi=>by rw[toldIn_statuses,hnone order hi]; rfl⟩
  rw[toldIn_statuses,List.getLast?_replicate,if_neg (hsome order hi)]
  rfl
 | recovered order=>
  have hgap:d.gap=true:=hpub
  cases hstep
  have hnext:d.recovered order=_:=if_neg (by simp[hgap])
  rw[hnext]
  refine ⟨_,rfl,by rw[hgap]; rfl,fun i hi=>?_,fun i hi=>by rw[toldIn_recovery,hnone order hi]; rfl⟩
  rw[toldIn_recovery,List.getLast?_append,List.getLast?_replicate,if_neg (hsome order hi)]
  rfl

theorem quiet_cases {event:Event} (hqt:¬Publishes d event) (hstep:step d event=some next):
 next=d∨(∃ key,event=.register key∧next=d.register key)∨
 (∃ i key,event=.unregister i∧d.keys[i]?=some key∧i∉d.released∧
  next = {d with sinks:=erase Prod.fst d.sinks key,released:=i::d.released})∨
 ∃ before first rest after,event=.deliver before.length∧d.calls=before++(first::rest)::after∧
  next = {d with calls:=before++rest::after,log:=d.log++[first]}:=by
 cases event with
 | register key=>
  cases hstep
  grind
 | unregister i=>
  obtain ⟨key,hkey,rfl⟩:=map_eq_some_iff.mp hstep
  by_cases hcll:i∈d.released
  · exact .inl (if_pos hcll)
  · exact .inr (.inr (.inl ⟨i,key,rfl,hkey,hcll,if_neg hcll⟩))
 | started=>
  cases hstep
  exact .inl (if_pos (Bool.eq_true_of_not_eq_false hqt))
 | recovered=>
  cases hstep
  exact .inl (if_pos (by simpa[Publishes] using hqt))
 | deliver=>
  simp only[step] at hstep
  split at hstep
  · next first rest hcall=>
    cases hstep
    obtain ⟨before,after,hcal,rfl,hset,-⟩:=exists_split hcall
    grind
  · cases hstep

theorem told_deliver {before after:List (List Delivery)} {first:Delivery} {rest:List Delivery}
 (hcal:d.calls=before++(first::rest)::after)
 (hsg:d.calls.Pairwise fun a b=>toldIn i a=[]∨toldIn i b=[]):
 toldIn i (d.log++[first]++(before++rest::after).flatten)=toldIn i (d.log++d.calls.flatten):=by
 have hcons:toldIn i (first::rest)=toldIn i [first]++toldIn i rest:=by
  rw[←toldIn_append,singleton_append]
 have hfst:toldIn i [first]=[]∨toldIn i before.flatten=[]:=by
  by_cases hnone:toldIn i [first]=[]
  · exact .inl hnone
  · refine .inr (filterMap_eq_nil_iff.mpr ?_)
    intro delivery hdel
    obtain ⟨call,hcall,hmem⟩:=mem_flatten.mp hdel
    rw[hcal] at hsg
    obtain hnil | hfull:=(pairwise_append.mp hsg).2.2 call hcall _ mem_cons_self
    · exact filterMap_eq_nil_iff.mp hnil delivery hmem
    · grind [append_eq_nil_iff.mp]
 rw[hcal]
 simp only[flatten_append,flatten_cons,toldIn_append,hcons,append_assoc]
 grind

theorem mapped_register {key:String} (h:i∈(d.register key).mapped):i∈d.mapped∨i=d.keys.length:=by
 obtain ⟨entry,hen,rfl⟩:=mem_map.mp h
 obtain hold | hnew:=mem_append.mp hen
 · exact .inl (mem_map_of_mem (mem_of_mem_filter hold))
 all_goals grind

theorem mapped_erase {key:String} (h:i∈(erase Prod.fst d.sinks key).map Prod.snd):i∈d.mapped:=by
 obtain ⟨entry,hen,rfl⟩:=mem_map.mp h
 exact mem_map_of_mem (mem_of_mem_filter hen)

theorem Inv.publish {event:Event} (h:Inv d) (halo:Alone d event) (hpub:Publishes d event)
 (hstep:step d event=some next):Inv next:=by
 obtain ⟨call,hnext,-,hlast,hnone⟩:=publish_eq hpub hstep
 have halo:=halo hpub
 rw[hnext]
 refine ⟨h.numbered,h.numbered,?_,?_,?_⟩
 · intro i hi
   have hnot:i∉d.mapped:=fun hmem=>absurd (h.numbered i hmem) (Nat.not_lt.mpr hi)
   have hfr:=h.fresh i hi
   grind [toldIn_append,flatten_append,flatten_singleton]
 · intro i hi
   refine pairwise_append.mpr ⟨h.single i hi,by simp,?_⟩
   grind
 · intro i hi
   simp only[flatten_append,toldIn_append,flatten_singleton,←append_assoc]
   rw[List.getLast?_append,hlast i hi,some_or,hnext]
   exact (if_pos hi).symm

theorem Inv.quiet {event:Event} (h:Inv d) (hqt:¬Publishes d event) (hstep:step d event=some next):
 Inv next:=by
 obtain rfl | ⟨key,-,rfl⟩ | ⟨j,key,-,-,-,rfl⟩ | ⟨before,first,rest,after,-,hcal,rfl⟩:=quiet_cases hqt hstep
 · exact h
 · -- the new registration has been told nothing
   have hnew:=h.fresh d.keys.length (Nat.le_refl _)
   have hnil:∀ call∈d.calls,toldIn d.keys.length call=[]:=by
    intro call hcall
    rw[toldIn_append,append_eq_nil_iff] at hnew
    refine filterMap_eq_nil_iff.mpr fun delivery hdel=>?_
    exact filterMap_eq_nil_iff.mp hnew.2 delivery (mem_flatten.mpr ⟨call,hcall,hdel⟩)
   have hkeys:(d.register key).keys.length=d.keys.length+1:=length_append
   refine ⟨?_,fun i hi=>(h.known i hi).trans (by omega),fun i hi=>h.fresh i (by omega),?_,?_⟩
   · intro i hi
     obtain hold | rfl:=mapped_register hi
     · exact (h.numbered i hold).trans (by omega)
     · omega
   · intro i hi
     obtain hold | rfl:=mapped_register hi
     · exact h.single i hold
     · exact pairwise_of_forall_mem_list fun a ha _ _=>.inl (hnil a ha)
   · intro i hi
     obtain hold | rfl:=mapped_register hi
     · exact h.agree i hold
     · rw[show toldIn _ ((d.register key).log++(d.register key).calls.flatten)=[] from hnew]
       exact (if_neg fun hmem=>Nat.lt_irrefl _ (h.known _ hmem)).symm
 · exact ⟨fun i hi=>h.numbered i (mapped_erase hi),h.known,h.fresh,fun i hi=>h.single i (mapped_erase hi),
    fun i hi=>h.agree i (mapped_erase hi)⟩
 · have hrest {i:ℕ} (hnone:toldIn i (first::rest)=[]):toldIn i rest=[]:=
    filterMap_eq_nil_iff.mpr fun x hx=>filterMap_eq_nil_iff.mp hnone x (mem_cons_of_mem first hx)
   refine ⟨h.numbered,h.known,?_,?_,?_⟩
   · intro i hi
     have hfr:=h.fresh i hi
     rw[hcal] at hfr
     refine filterMap_eq_nil_iff.mpr fun delivery hdel=>filterMap_eq_nil_iff.mp hfr delivery ?_
     grind
   · intro i hi
     have hsg:=h.single i hi
     rw[hcal] at hsg
     obtain ⟨hbef,hcons,hcro⟩:=pairwise_append.mp hsg
     obtain ⟨hhead,haf⟩:=pairwise_cons.mp hcons
     refine pairwise_append.mpr ⟨hbef,pairwise_cons.mpr ⟨fun b hb=>(hhead b hb).imp_left hrest,haf⟩,?_⟩
     intro a ha b hb
     obtain rfl | hb:=mem_cons.mp hb
     all_goals grind [mem_cons_self,mem_cons_of_mem]
   · intro i hi
     have hagre:=h.agree i hi
     rw[←told_deliver hcal (h.single i hi)] at hagre
     exact hagre

theorem Inv.step {event:Event} (h:Inv d) (halo:Alone d event) (hstep:step d event=some next):Inv next:=by
 by_cases hpub:Publishes d event
 · exact h.publish halo hpub hstep
 · exact h.quiet hpub hstep

theorem inv_new:Inv {}:=⟨nofun,nofun,fun _ _=>rfl,nofun,nofun⟩

theorem inv_run {events:List Event} (hrun:run BackendLifecycle.step {} events=some d)
 (halo:Along BackendLifecycle.step Alone {} events):Inv d:=
 invariant_along Inv (fun _ _ _ h halo hstep=>h.step halo hstep) inv_new halo hrun

theorem Inv.agrees (h:Inv d) (hret:d.Returned):d.Agrees:=by
 have hnone:d.calls.flatten=[]:=flatten_eq_nil_iff.mpr hret
 intro i hi
 have hagree:=h.agree i hi
 grind

/-! ## Overlapping calls -/

theorem run_call {before after:List (List Delivery)} {call:List Delivery}
 (hcal:d.calls=before++call::after):
 ∃ events,run BackendLifecycle.step d events = some {d with calls:=before++[]::after,log:=d.log++call}:=by
 induction call generalizing d with
 | nil=>exact ⟨[],by rw[←hcal,append_nil]; rfl⟩
 | cons first rest ih=>
  have hstep:BackendLifecycle.step d (.deliver before.length) =
    some {d with calls:=before++rest::after,log:=d.log++[first]}:=by
   simp[BackendLifecycle.step,hcal]
  have hrest:=@ih {d with calls:=before++rest::after,log:=d.log++[first]} rfl
  obtain ⟨events,hrun⟩:=hrest
  refine ⟨.deliver before.length::events,run_cons_eq_some.mpr ⟨_,hstep,?_⟩⟩
  simpa[append_assoc] using hrun

theorem run_calls {before after:List (List Delivery)} (hcal:d.calls=before++after)
 (hbef:∀ call∈before,call=[]):
 ∃ events e,run BackendLifecycle.step d events=some e∧e.Returned∧e.sinks=d.sinks∧e.current=d.current∧
  e.log=d.log++after.flatten:=by
 induction after generalizing d before with
 | nil=>
  refine ⟨[],d,rfl,?_,rfl,rfl,by simp⟩
  rw[Lifecycle.Returned,hcal,append_nil]
  exact hbef
 | cons call rest ih=>
  obtain ⟨events,hrun⟩:=run_call hcal
  have hall:∀ c∈before++[[]],c=[]:=by
   grind
  obtain ⟨later,e,hlat,hret,hsin,hcurr,hlog⟩:=
   @ih {d with calls:=before++[]::rest,log:=d.log++call} (before++[[]]) (by simp) hall
  refine ⟨events++later,e,run_append_eq_some.mpr ⟨_,hrun,hlat⟩,hret,hsin,hcurr,?_⟩
  grind

theorem eq_current {status : Status} (h : d.expected i = some status) : status = d.current := by
  grind [Lifecycle.expected]

theorem disagrees_after_overlap {events:List Event} {event:Event}
 (hrun:run BackendLifecycle.step {} events=some d) (halone:Along BackendLifecycle.step Alone {} events)
 (hoverlap:¬Alone d event):
 ∃ later e,run BackendLifecycle.step d (event::later)=some e∧e.Returned∧¬e.Agrees:=by
 have h:=inv_run hrun halone
 simp only[Alone,not_forall] at hoverlap
 obtain ⟨hpub,i,hi,old,hold,htold⟩:=hoverlap
 obtain ⟨next,hstep⟩ : ∃ next,BackendLifecycle.step d event=some next:=by
  cases event with
  | started _ | recovered _=>exact ⟨_,rfl⟩
  | register _ | unregister _ | deliver _=>exact hpub.elim
 obtain ⟨call,hnext,hgap,-,-⟩:=publish_eq hpub hstep
 -- the new call returns first, then the older ones
 obtain ⟨first,hfst⟩:=@run_call next d.calls [] call (by rw[hnext])
 obtain ⟨later,e,hlat,hret,hsin,hcurr,hlog⟩:=
  @run_calls {next with calls:=d.calls++[[]],log:=next.log++call} [] (d.calls++[[]]) rfl nofun
 refine ⟨first++later,e,run_cons_eq_some.mpr ⟨next,hstep,run_append_eq_some.mpr ⟨_,hfst,hlat⟩⟩,
  hret,fun hagr=>?_⟩
 have hmapp:i∈e.mapped:=by
  rw[Lifecycle.mapped,hsin]
  rw[hnext]
  exact hi
 have hcal:toldIn i d.calls.flatten≠[]:=by
  intro hnone
  refine htold (filterMap_eq_nil_iff.mpr fun delivery hdel=>?_)
  exact filterMap_eq_nil_iff.mp hnone delivery (mem_flatten.mpr ⟨old,hold,hdel⟩)
 obtain ⟨status,hst⟩:=isSome_iff_exists.mp (List.getLast?_isSome.mpr hcal)
 have hbef:status=d.current:=by
  have hagree:=h.agree i hi
  grind [toldIn_append,eq_current,List.getLast?_append]
 have haf:status=e.current:=by
  have hagree:=hagr i hmapp
  rw[hlog] at hagree
  simp only[flatten_append,flatten_cons,flatten_nil,append_nil,toldIn_append] at hagree
  rw[List.getLast?_append,hst,some_or] at hagree
  exact eq_current hagree.symm
 grind [Lifecycle.current]

end

/-- Every sink was last told the state of the backend once all calls have ended. -/
theorem lifecycle_agrees_of_alone (events:List Event) (d:Lifecycle)
 (hrun:run step {} events=some d):
 (∀ event next,step d event=some next →
  next.generation=d.generation+(if d.gap=false∧next.gap=true then 1 else 0))∧
 (Along step Alone {} events→ d.Returned→ d.Agrees):=by
 refine ⟨?_,fun halo hret=>(inv_run hrun halo).agrees hret⟩
 intro event next hstep
 by_cases hpub:Publishes d event
 · cases event with
   | register _ | unregister _ | deliver _=>exact hpub.elim
   | started=>
    have hgap:d.gap=false:=hpub
    cases hstep
    simp[Lifecycle.started,hgap]
   | recovered=>
    have hgap:d.gap=true:=hpub
    cases hstep
    simp[Lifecycle.recovered,hgap]
 · obtain rfl | ⟨key,-,rfl⟩ | ⟨j,key,-,-,-,rfl⟩ | ⟨before,first,rest,after,-,-,rfl⟩:=
    quiet_cases hpub hstep<;>simp[Lifecycle.register]

/-! ## Keys that are registered again -/

def Lifecycle.Live (d:Lifecycle) (i:ℕ):Prop:=i<d.keys.length∧i∉d.released

/-- The call of a publication ends with the new status for every registration that was not released, and the
release of a registration leaves every other one in the map. -/
structure Reaches (d : Lifecycle) (event : Event) : Prop where
  told : Publishes d event → ∀ next, step d event = some next → ∃ call, next.calls = d.calls ++ [call] ∧
    ∀ i, d.Live i → (toldIn i call).getLast? = some next.current
  kept : ∀ i, event = .unregister i → ∀ next, step d event = some next → ∀ j, j ≠ i → d.Live j → j ∈ next.mapped

def NewKey (d:Lifecycle):Event→Prop
 | .register key=>∀ i<d.keys.length,i∉d.released→ d.keys[i]?≠some key
 | _=>True

structure Keyed (d:Lifecycle):Prop where
 named:∀ entry∈d.sinks,d.keys[entry.2]?=some entry.1
 held:∀ i key,d.Live i→ d.keys[i]?=some key→(key,i)∈d.sinks
 apart:∀ i j,d.Live i→ d.Live j→ d.keys[i]?=d.keys[j]? → i=j

section
variable {d next:Lifecycle} {event:Event} {key:String}

theorem Keyed.mapped (h:Keyed d) {i:ℕ} (hi:d.Live i):i∈d.mapped:=
 mem_map.mpr ⟨(d.keys.get ⟨i,hi.1⟩,i),h.held i _ hi (List.getElem?_eq_getElem hi.1),rfl⟩

theorem Keyed.register (h:Keyed d) (hnew:NewKey d (.register key)):Keyed (d.register key):=by
 have hold {i:ℕ} (hi:i<d.keys.length):(d.register key).keys[i]?=d.keys[i]?:=List.getElem?_append_left hi
 have hlast:(d.register key).keys[d.keys.length]?=some key:=List.getElem?_concat_length
 have hcas {i:ℕ} (hi:(d.register key).Live i):d.Live i∨i=d.keys.length:=by
  have hlen:i<d.keys.length+1:=by simpa[Lifecycle.register] using hi.1
  obtain hlt | heq:=Nat.lt_or_eq_of_le (Nat.le_of_lt_succ hlen)
  · exact .inl ⟨hlt,hi.2⟩
  · exact .inr heq
 refine ⟨?_,?_,?_⟩
 · intro entry hen
   obtain hkept | hadd:=mem_append.mp hen
   · have hnam:=h.named entry (mem_of_mem_filter hkept)
     grind
   · grind
 · intro i own hi hown
   obtain hlive | rfl:=hcas hi
   · rw[hold hlive.1] at hown
     have hne:own≠key:=fun heq=>hnew i hlive.1 hlive.2 (heq▸hown)
     exact mem_append_left _ (mem_filter.mpr ⟨h.held i own hlive hown,by simpa using hne⟩)
   · cases hlast.symm.trans hown
     exact mem_append_right _ (mem_singleton_self _)
 · intro i j hi hj heq
   obtain hi | rfl:=hcas hi<;>obtain hj | rfl:=hcas hj
   · rw[hold hi.1,hold hj.1] at heq
     exact h.apart i j hi hj heq
   · rw[hold hi.1,hlast] at heq
     exact absurd heq (hnew i hi.1 hi.2)
   · rw[hold hj.1,hlast] at heq
     exact absurd heq.symm (hnew j hj.1 hj.2)
   · rfl

theorem Keyed.step (h:Keyed d) (hnew:NewKey d event) (hstep:step d event=some next):Keyed next:=by
 by_cases hpub:Publishes d event
 · obtain ⟨call,hnext,-⟩:=publish_eq hpub hstep
   rw[hnext]
   exact ⟨h.named,h.held,h.apart⟩
 · obtain rfl | ⟨key,rfl,rfl⟩ | ⟨i,key,-,hkey,hcll,rfl⟩ | ⟨_,_,_,_,-,-,rfl⟩:=
    quiet_cases hpub hstep
   · exact h
   · exact h.register hnew
   · have hlive {j:ℕ} (hj:j<d.keys.length∧j∉i::d.released):d.Live j∧j≠i:=
      ⟨⟨hj.1,fun hmem=>hj.2 (mem_cons_of_mem i hmem)⟩,fun heq=>hj.2 (heq▸mem_cons_self)⟩
     refine ⟨fun entry hen=>h.named entry (mem_of_mem_filter hen),?_,
      fun j k hj hk=>h.apart j k (hlive hj).1 (hlive hk).1⟩
     intro j own hj hown
     -- the function deletes its own key, which no other live registration has
     have hne:own≠key:=by
      rintro rfl
      exact (hlive hj).2 (h.apart j i (hlive hj).1 ⟨(List.getElem?_eq_some_iff.mp hkey).1,hcll⟩
       (hown.trans hkey.symm))
     exact mem_filter.mpr ⟨h.held j own (hlive hj).1 hown,by simpa using hne⟩
   · exact ⟨h.named,h.held,h.apart⟩

theorem keyed_new:Keyed {}:=⟨nofun,fun _ _ hi=>absurd hi.1 (Nat.not_lt_zero _),fun _ _ hi=>absurd hi.1 (Nat.not_lt_zero _)⟩

theorem Reaches.not_of_unmapped (h : Reaches d event) (hpub : Publishes d event) (hstep : step d event = some next)
    {i : ℕ} (hi : d.Live i) (hgone : i ∉ d.mapped) : False := by
  obtain ⟨call, hcalls, hlast⟩ := h.told hpub next hstep
  obtain ⟨own, hnext, -, -, hnone⟩ := publish_eq hpub hstep
  have hcall : call = own := by
    rw [hnext] at hcalls
    simpa using hcalls.symm
  grind

theorem unreached_after_register {events:List Event} (hrun:run BackendLifecycle.step {} events=some d)
 (hnew:Along BackendLifecycle.step NewKey {} events) (hreused:¬NewKey d (.register key)):
 ∃ publish,¬Reaches (d.register key) publish:=by
 have h:Keyed d:=invariant_along Keyed (fun _ _ _ h hnew hstep=>h.step hnew hstep) keyed_new hnew hrun
 simp only[NewKey,not_forall,not_not] at hreused
 obtain ⟨i,hi,hlive,hkey⟩:=hreused
 have hgone:i∉(d.register key).mapped:=by
  intro hmem
  obtain ⟨⟨own,_⟩,hen,rfl⟩:=mem_map.mp hmem
  obtain hkept | hadd:=mem_append.mp hen
  · obtain ⟨hold,hne⟩:=mem_filter.mp hkept
    cases hkey.symm.trans (h.named _ hold)
    simp at hne
  · grind
 have hsti:(d.register key).Live i:=⟨by simp[Lifecycle.register]; omega,hlive⟩
 cases hgap : d.gap with
 | false=>exact ⟨.started .listed,fun hrea=>hrea.not_of_unmapped hgap rfl hsti hgone⟩
 | true=>exact ⟨.recovered .listed,fun hrea=>hrea.not_of_unmapped hgap rfl hsti hgone⟩

end

instance (d:Lifecycle):(event:Event)→Decidable (Publishes d event)
 | .started _=>inferInstanceAs (Decidable (d.gap=false))
 | .recovered _=>inferInstanceAs (Decidable (d.gap=true))
 | .register _ | .unregister _ | .deliver _=>.isFalse id

instance (d:Lifecycle) (event:Event):Decidable (Alone d event):=inferInstanceAs (Decidable (_→_))

instance (d:Lifecycle):(event:Event)→Decidable (NewKey d event)
 | .register _=>inferInstanceAs (Decidable (∀ i<d.keys.length,_))
 | .unregister _ | .started _ | .recovered _ | .deliver _=>.isTrue trivial

namespace Scenario

def overtaken:List Event:=
 [.register "book",.started .listed,.recovered .listed,.deliver 1,.deliver 1,.deliver 1,.deliver 0]

def inTurn:List Event:=
 [.register "book",.started .listed,.deliver 0,.recovered .listed,.deliver 1,.deliver 1,.deliver 1,.unregister 0,
  .register "book",.started .listed]

end Scenario

theorem gap_told_after_recovery :
 ∃ d,run step {} Scenario.overtaken=some d∧d.Returned∧d.gap=false∧¬d.Agrees:=
 ⟨_,rfl,by unfold Lifecycle.Returned; decide,rfl,by unfold Lifecycle.Agrees; decide⟩

theorem lifecycle_agrees_in_turn :
 ∃ d,run step {} (Scenario.inTurn.take 7)=some d∧toldIn 0 d.log=[⟨.gap,1⟩,⟨.resyncing,1⟩,⟨.active,1⟩]∧
  d.expected 0=some ⟨.active,1⟩∧d.Agrees:=
 ⟨_,rfl,by decide,by decide,(lifecycle_agrees_of_alone (Scenario.inTurn.take 7) _ rfl).2 (by decide)
  (by unfold Lifecycle.Returned; decide)⟩

end BolterTrader.Streams.BackendLifecycle
