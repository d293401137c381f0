import BolterTrader.Foundations.FixedWindow
import BolterTrader.Foundations.GoText
import BolterTrader.Foundations.Transition

/-! The request budgets of the gateway (`gateway/ratelimit/coordinator.go`). -/
namespace BolterTrader.RateLimit
open Foundations FixedWindow Transition List Option

inductive KeyKind where
 | venue
 | endpoint
 | other (text:String)
 deriving DecidableEq

structure Key where
 kind:KeyKind
 value:String
 deriving DecidableEq

def Key.validate (key:Key):Bool:=
 (match key.kind with
  | .venue | .endpoint=>true
  | .other _=>false) &&
 !(key.value="" || key.value≠GoText.trimSpace key.value || 256<key.value.utf8ByteSize ||
  key.value.toList.any fun c=>c = '\n' || c = '\r' || c = '\t')

structure Quota where
 limit:Int64
 interval:Int
 deriving DecidableEq

def zeroTime:Int:=-62135596800*10^9
def maxDuration:Int:=2^63-1
def minDuration:Int:=-2^63
def sub (a b:Int):Int:=max minDuration (min maxDuration (a-b))

structure Window where
 quota:Quota
 valid:0<quota.limit∧0<quota.interval
 start:Int
 used:Int64:=0
 blockedUntil:Int:=zeroTime

structure Coordinator where
 windows:Key→Option Window:=fun _=>none

def Coordinator.put (c:Coordinator) (key:Key) (w:Window):Coordinator:=
 {windows:=Function.update c.windows key (some w)}

def Coordinator.configure (c:Coordinator) (key:Key) (quota:Quota) (now:Int):Option Coordinator:=
 if h : key.validate=true∧0<quota.limit∧0<quota.interval then
  match c.windows key with
  | some existing=>if existing.quota=quota then some c else none
  | none=>some (c.put key {quota,valid:=h.2,start:=now})
 else none

def Window.lapsed (w:Window) (now:Int):Bool:=w.start+w.quota.interval≤now

def Coordinator.used (c:Coordinator) (key:Key) (now:Int):Int64:=
 match c.windows key with
 | none=>0
 | some w=>if w.lapsed now then 0 else w.used

structure Charge where
 key:Key
 cost:Int64
 reserve:Int64:=0

def Window.restart (w:Window) (now:Int):Window:=if w.lapsed now then {w with start:=now,used:=0} else w

def Window.delay (w:Window) (now:Int) (charge:Charge) (delay:Int):Int:=
 let delay:=if w.quota.limit-charge.reserve<w.used+charge.cost then
  max delay (sub (w.start+w.quota.interval) now) else delay
 max delay (sub w.blockedUntil now)

def Coordinator.check (now:Int) (c:Coordinator) (seen:List Key) (delay:Int):
  List Charge→ Coordinator×Option Int
 | []=>(c,some delay)
 | charge::rest=>
  match c.windows charge.key with
  | none=>(c,none)
  | some w=>
   if charge.key∈seen∨charge.cost≤0∨charge.reserve<0∨w.quota.limit-charge.reserve<charge.cost then
    (c,none)
   else
    Coordinator.check now (c.put charge.key (w.restart now)) (charge.key::seen)
     ((w.restart now).delay now charge delay) rest

def Window.spend (w:Window) (cost:Int64):Window:={w with used:=w.used+cost}

def Coordinator.spend (c:Coordinator) (charge:Charge):Coordinator:=
 {windows:=Function.update c.windows charge.key ((c.windows charge.key).map (·.spend charge.cost))}

inductive Outcome where
 | admitted
 | delayed (delay:Int)
 | invalid
 | ended
 deriving DecidableEq

def Coordinator.tryAcquire (c:Coordinator) (ended:Bool) (charges:List Charge) (now:Int):
 Coordinator×Outcome:=
 if ended then (c,.ended)
 else if charges=[] then (c,.invalid)
 else
  match c.check now [] 0 charges with
  | (c,none)=>(c,.invalid)
  | (c,some delay)=>if 0<delay then (c,.delayed delay) else (charges.foldl Coordinator.spend c,.admitted)

def Coordinator.block (c:Coordinator) (key:Key) (limit:Int):Coordinator:=
 match c.windows key with
 | none=>c
 | some w=>if w.blockedUntil<limit then c.put key {w with blockedUntil:=limit} else c

/-! ## What the check of a request does -/

section
variable {c c':Coordinator} {w:Window} {key:Key} {charge:Charge} {charges:List Charge} {now delay d:Int}

theorem sub_pos_iff (a b:Int):0<sub a b ↔ b<a:=by
 unfold sub maxDuration minDuration
 omega

theorem restart_quota (w:Window) (now:Int):(w.restart now).quota=w.quota:=by
 unfold Window.restart
 split<;>rfl

theorem restart_blocked (w:Window) (now:Int):(w.restart now).blockedUntil=w.blockedUntil:=by
 unfold Window.restart
 split<;>rfl

theorem restart_fresh (w:Window) (now:Int):(w.restart now).lapsed now=false:=by
 unfold Window.restart
 split
 next=>
  grind [Window.lapsed]
 next h=>simpa using h

theorem restart_restart (w:Window) (now:Int):(w.restart now).restart now=w.restart now:=by
 rw[Window.restart,if_neg (by rw[restart_fresh]; simp)]

theorem put_self (c:Coordinator) (key:Key) (w:Window):(c.put key w).windows key=some w:=
 Function.update_self key _ c.windows

theorem put_ne (c:Coordinator) (w:Window) {other:Key} (h:other≠key):
 (c.put key w).windows other=c.windows other:=
 Function.update_of_ne h _ c.windows

theorem spend_self (c:Coordinator) (charge:Charge):
 (c.spend charge).windows charge.key=(c.windows charge.key).map (·.spend charge.cost):=
 Function.update_self charge.key _ c.windows

theorem spend_ne (c:Coordinator) (charge:Charge) {other:Key} (h:other≠charge.key):
 (c.spend charge).windows other=c.windows other:=
 Function.update_of_ne h _ c.windows

structure Window.Fits (w:Window) (now:Int) (charge:Charge):Prop where
 room:¬w.quota.limit-charge.reserve<w.used+charge.cost
 free:w.blockedUntil≤now

theorem delay_le (w:Window) (now:Int) (charge:Charge) (delay:Int):delay≤w.delay now charge delay:=by
 unfold Window.delay
 dsimp only
 split<;>omega

theorem fits_of_delay (delay:Int) (hfr:w.lapsed now=false) (h:w.delay now charge delay≤0):w.Fits now charge:=by
 have hpd:0<sub (w.start+w.quota.interval) now:=by
  rw[sub_pos_iff]
  simpa[Window.lapsed] using hfr
 unfold Window.delay at h
 dsimp only at h
 constructor
 · grind
 · by_contra hbl
   have:=(sub_pos_iff w.blockedUntil now).mpr (by omega)
   split at h<;>omega

structure Passed (c c':Coordinator) (now d:Int) (charge:Charge):Prop where
 cost:0<charge.cost
 reserve:0≤charge.reserve
 window:∃ w,c.windows charge.key=some w∧c'.windows charge.key=some (w.restart now)∧
  ¬w.quota.limit-charge.reserve<charge.cost∧(d≤0→(w.restart now).Fits now charge)

structure Checked (c c':Coordinator) (now delay d:Int) (seen:List Key) (charges:List Charge):Prop where
 later:delay≤d
 distinct:(charges.map Charge.key).Nodup
 unseen:∀ charge∈charges,charge.key∉seen
 passed:∀ charge∈charges,Passed c c' now d charge
 others:∀ key,key∉charges.map Charge.key→ c'.windows key=c.windows key

theorem checked_of_check {seen:List Key} (h:c.check now seen delay charges=(c',some d)):
 Checked c c' now delay d seen charges:=by
 induction charges generalizing c seen delay with
 | nil=>
  simp only[Coordinator.check,Prod.mk.injEq,some.injEq] at h
  obtain ⟨rfl,rfl⟩:=h
  exact ⟨Int.le_refl _,by simp,by simp,by simp,fun _ _=>rfl⟩
 | cons charge rest ih=>
  rw[Coordinator.check] at h
  split at h
  next=>simp at h
  next w hw=>
   split at h
   next=>simp at h
   next hok=>
    simp only[not_or] at hok
    obtain ⟨hseen,hcost,hrsv,hfits⟩:=hok
    have hrest:=ih h
    have hdel:=delay_le (w.restart now) now charge delay
    have hlat:=hrest.later
    have hnew:charge.key∉rest.map Charge.key:=by
     intro hmem
     obtain ⟨oth,hoth,hkey⟩:=mem_map.mp hmem
     apply hrest.unseen oth hoth
     grind
    have hkept:c'.windows charge.key=some (w.restart now):=by
     rw[hrest.others _ hnew,put_self]
    have hne:∀ oth∈rest,oth.key≠charge.key:=by
     grind
    refine ⟨by omega,?_,?_,?_,?_⟩
    · rw[map_cons,nodup_cons]
      exact ⟨hnew,hrest.distinct⟩
    · intro oth hoth
      obtain rfl | hoth:=mem_cons.mp hoth
      · exact hseen
      · intro hmem
        exact hrest.unseen oth hoth (mem_cons_of_mem _ hmem)
    · intro oth hoth
      obtain rfl | hoth:=mem_cons.mp hoth
      · refine ⟨Int64.not_le.mp hcost,Int64.not_lt.mp hrsv,w,hw,hkept,hfits,fun hd=>?_⟩
        apply fits_of_delay delay (restart_fresh w now)
        omega
      · obtain ⟨hcs',hrsv',w',hw',hrs',hft'⟩:=hrest.passed oth hoth
        rw[put_ne _ _ (hne oth hoth)] at hw'
        exact ⟨hcs',hrsv',w',hw',hrs',hft'⟩
    · intro key hkey
      simp only[map_cons,mem_cons,not_or] at hkey
      rw[hrest.others key hkey.2,put_ne _ _ hkey.1]

def Rolled (now:Int) (c c':Coordinator):Prop:=
 ∀ key,c'.windows key=c.windows key∨c'.windows key=(c.windows key).map (·.restart now)

theorem Rolled.trans {c'':Coordinator} (h:Rolled now c c') (h':Rolled now c' c''):Rolled now c c'':=by
 intro key
 obtain hsame | hrs:=h' key
 · rw[hsame]
   exact h key
 · rw[hrs]
   obtain hsame' | hrs':=h key
   · rw[hsame']
     exact .inr rfl
   · rw[hrs',Option.map_map]
     right
     congr 1
     funext w
     exact restart_restart w now

theorem rolled_put (hw:c.windows key=some w):Rolled now c (c.put key (w.restart now)):=by
 intro oth
 by_cases hkey:oth=key
 all_goals grind [put_self,put_ne]

theorem rolled_check (now:Int) (c:Coordinator) (seen:List Key) (delay:Int) (charges:List Charge):
 Rolled now c (c.check now seen delay charges).1:=by
 induction charges generalizing c seen delay with
 | nil=>exact fun _=>.inl rfl
 | cons charge rest ih=>
  rw[Coordinator.check]
  split
  next=>exact fun _=>.inl rfl
  next w hw=>
   split
   next=>exact fun _=>.inl rfl
   next=>exact (rolled_put hw).trans (ih _ _ _)

theorem used_restart (w:Window) (now:Int):(w.restart now).used=if w.lapsed now then 0 else w.used:=by
 unfold Window.restart
 split<;>rfl

theorem used_of_window (hw:c.windows key=some w) (now:Int):c.used key now=(w.restart now).used:=by
 rw[Coordinator.used,hw,used_restart]

theorem Rolled.used_eq (h:Rolled now c c') (key:Key):c'.used key now=c.used key now:=by
 unfold Coordinator.used
 obtain hsame | hrs:=h key
 · rw[hsame]
 · rw[hrs]
   cases c.windows key with
   | none=>rfl
   | some=>simp[restart_fresh,used_restart]

theorem foldl_spend_of_notMem (hkey:key∉charges.map Charge.key):
 (charges.foldl Coordinator.spend c).windows key=c.windows key:=by
 induction charges generalizing c with
 | nil=>rfl
 | cons charge rest ih=>
  grind [spend_ne]

theorem foldl_spend_of_mem (hnd:(charges.map Charge.key).Nodup) (hch:charge∈charges):
 (charges.foldl Coordinator.spend c).windows charge.key=(c.windows charge.key).map (·.spend charge.cost):=by
 induction charges generalizing c with
 | nil=>simp at hch
 | cons head rest ih=>
  rw[map_cons,nodup_cons] at hnd
  rw[foldl_cons]
  obtain rfl | hch:=mem_cons.mp hch
  · rw[foldl_spend_of_notMem hnd.1,spend_self]
  · grind [spend_ne]

structure Ready (c:Coordinator) (now:Int) (charge:Charge):Prop where
 cost:0<charge.cost
 reserve:0≤charge.reserve
 window:∃ w,c.windows charge.key=some w∧¬w.quota.limit-charge.reserve<charge.cost∧
  (w.restart now).Fits now charge

theorem delay_of_fits (h:w.Fits now charge) (hdel:delay≤0):w.delay now charge delay≤0:=by
 have hfree:¬0<sub w.blockedUntil now:=by
  have:=h.free
  rw[sub_pos_iff]
  omega
 unfold Window.delay
 dsimp only
 rw[if_neg h.room]
 omega

structure Valid (c:Coordinator) (charge:Charge):Prop where
 cost:0<charge.cost
 reserve:0≤charge.reserve
 window:∃ w,c.windows charge.key=some w∧¬w.quota.limit-charge.reserve<charge.cost

theorem check_of_valid {seen:List Key} (hval:∀ charge∈charges,Valid c charge)
 (hdis:(charges.map Charge.key).Nodup) (huns:∀ charge∈charges,charge.key∉seen) (now delay:Int):
 ∃ c' d,c.check now seen delay charges=(c',some d)∧((∀ charge∈charges,Ready c now charge)→ delay≤0→ d≤0):=by
 induction charges generalizing c seen delay with
 | nil=>exact ⟨c,delay,rfl,fun _=>id⟩
 | cons charge rest ih=>
  obtain ⟨hfst,hrest⟩:=forall_mem_cons.mp hval
  obtain ⟨w,hw,hlimit⟩:=hfst.window
  rw[map_cons,nodup_cons] at hdis
  have hne:∀ other∈rest,(c.put charge.key (w.restart now)).windows other.key=c.windows other.key:=by
   intro other hoth
   apply put_ne
   grind
  have hok:¬(charge.key∈seen∨charge.cost≤0∨charge.reserve<0∨w.quota.limit-charge.reserve<charge.cost):=by
   simp only[not_or]
   exact ⟨huns charge mem_cons_self,Int64.not_le.mpr hfst.cost,Int64.not_lt.mpr hfst.reserve,hlimit⟩
  rw[Coordinator.check,hw]
  dsimp only
  rw[if_neg hok]
  have hval':∀ other∈rest,Valid (c.put charge.key (w.restart now)) other:=by
   intro other hoth
   obtain ⟨hcost,hrsv,hwin⟩:=hrest other hoth
   exact ⟨hcost,hrsv,by rwa[hne other hoth]⟩
  have huns':∀ other∈rest,other.key∉charge.key::seen:=by
   grind
  obtain ⟨c',d,hche,hd⟩:=ih hval' hdis.2 huns' ((w.restart now).delay now charge delay)
  refine ⟨c',d,hche,fun hrea hdel=>hd ?_ ?_⟩
  · intro other hoth
    obtain ⟨hcost,hrsv,hwin⟩:=hrea other (mem_cons_of_mem charge hoth)
    exact ⟨hcost,hrsv,by rwa[hne other hoth]⟩
  · obtain ⟨w',hw',-,hfits⟩:=(hrea charge mem_cons_self).window
    grind [delay_of_fits]

theorem configured_cases (c:Coordinator) (key:Key) (quota:Quota) (now:Int):
 (c.configure key quota now).getD c=c∨c.windows key=none∧
  ∃ w:Window,w.quota=quota∧w.start=now∧w.used=0∧w.blockedUntil=zeroTime∧
   c.configure key quota now=some (c.put key w):=by
 grind [Coordinator.configure]

theorem configure_isSome_iff (c:Coordinator) (key:Key) (quota:Quota) (now:Int):
 (c.configure key quota now).isSome=true ↔
  key.validate=true∧0<quota.limit∧0<quota.interval∧∀ w,c.windows key=some w→ w.quota=quota:=by
 unfold Coordinator.configure
 grind

theorem configure_eq_some {key:Key} {quota:Quota} (h:c.configure key quota now=some c'):
 (∃ w,c'.windows key=some w∧w.quota=quota∧
  (c.windows key=some w∨c.windows key=none∧w.used=0∧w.blockedUntil=zeroTime))∧
 ∀ other,other≠key→ c'.windows other=c.windows other:=by
 unfold Coordinator.configure at h
 split at h
 next hval=>
  split at h
  next w hw=>
   grind
  next hnone=>
   cases h
   exact ⟨⟨_,put_self _ _ _,rfl,.inr ⟨hnone,rfl,rfl⟩⟩,fun other hoth=>put_ne _ _ hoth⟩
 next=>simp at h

inductive Tried (c:Coordinator) (charges:List Charge) (now:Int):Coordinator→Outcome→Prop
 | refused {c':Coordinator} {outcome:Outcome} (hrolled:Rolled now c c') (hout:outcome≠.admitted):
  Tried c charges now c' outcome
 | admitted {c':Coordinator} {d:Int} (hchecked:Checked c c' now 0 d [] charges) (hrolled:Rolled now c c')
  (hd:d≤0):Tried c charges now (charges.foldl Coordinator.spend c') .admitted

theorem tried_of_tryAcquire (c:Coordinator) (ended:Bool) (charges:List Charge) (now:Int):
 Tried c charges now (c.tryAcquire ended charges now).1 (c.tryAcquire ended charges now).2:=by
 have hsame:Rolled now c c:=fun _=>.inl rfl
 have hrol:=rolled_check now c [] 0 charges
 unfold Coordinator.tryAcquire
 split
 next=>exact .refused hsame nofun
 next=>
  split
  next=>exact .refused hsame nofun
  next=>
   split
   next c' hche=>
    rw[hche] at hrol
    exact .refused hrol nofun
   next c' d hche=>
    rw[hche] at hrol
    split
    next=>exact .refused hrol nofun
    next hd=>exact .admitted (checked_of_check hche) hrol (by omega)

theorem admitted_iff (c:Coordinator) (ended:Bool) (charges:List Charge) (now:Int):
 (c.tryAcquire ended charges now).2=.admitted ↔
  ended=false∧charges≠[]∧(charges.map Charge.key).Nodup∧∀ charge∈charges,Ready c now charge:=by
 constructor
 · intro h
   have hcll:ended=false∧charges≠[]:=by
    grind [Coordinator.tryAcquire]
   have htri:=tried_of_tryAcquire c ended charges now
   generalize c.tryAcquire ended charges now=result at htri h
   obtain ⟨c',outcome⟩:=result
   cases htri with
   | refused _ hout=>exact absurd h hout
   | admitted hchk _ hd=>
    refine ⟨hcll.1,hcll.2,hchk.distinct,fun charge hch=>?_⟩
    obtain ⟨hcost,hrsv,w,hw,-,hlimit,hfits⟩:=hchk.passed charge hch
    exact ⟨hcost,hrsv,w,hw,hlimit,hfits hd⟩
 · rintro ⟨rfl,hsome,hdis,hrea⟩
   have huns:∀ charge∈charges,charge.key∉([]:List Key):=by simp
   have hval:∀ charge∈charges,Valid c charge:=by
    intro charge hch
    obtain ⟨hcost,hrsv,w,hw,hlimit,-⟩:=hrea charge hch
    exact ⟨hcost,hrsv,w,hw,hlimit⟩
   obtain ⟨c',d,hche,hd⟩:=check_of_valid hval hdis huns now 0
   simp[Coordinator.tryAcquire,hsome,hche,Int.not_lt.mpr (hd hrea (Int.le_refl 0))]

/-! ## The delay of a refused request -/

def Window.Over (w:Window) (charge:Charge):Prop:=w.quota.limit-charge.reserve<w.used+charge.cost

def Window.FreeAt (w:Window) (charge:Charge) (t:Int):Prop:=
 (w.Over charge→ w.start+w.quota.interval≤t)∧w.blockedUntil≤t

def Window.Foreseen (w:Window) (now:Int):Prop:=
 w.start+w.quota.interval≤now+maxDuration∧w.blockedUntil≤now+maxDuration

theorem lapsed_not_over (hlimit:¬w.quota.limit-charge.reserve<charge.cost) (h:w.lapsed now=true):
 ¬(w.restart now).Over charge:=by
 unfold Window.Over Window.restart
 grind

theorem restart_fits_iff (hlimit:¬w.quota.limit-charge.reserve<charge.cost) (t:Int):
 (w.restart t).Fits t charge ↔ w.FreeAt charge t:=by
 have hbl:=restart_blocked w t
 by_cases h:w.lapsed t=true
 · have hover:=lapsed_not_over hlimit h
   refine ⟨fun hfits=>⟨fun _=>of_decide_eq_true h,hbl▸hfits.free⟩,fun hfree=>⟨hover,?_⟩⟩
   rw[hbl]
   exact hfree.2
 · have hopen:¬w.start+w.quota.interval≤t:=by simpa[Window.lapsed] using h
   rw[Window.restart,if_neg h]
   exact ⟨fun hfits=>⟨fun hover=>absurd hover hfits.room,hfits.free⟩,
    fun hfree=>⟨fun hover=>hopen (hfree.1 hover),hfree.2⟩⟩

theorem restart_delay_le_iff (hlimit:¬w.quota.limit-charge.reserve<charge.cost) (hfor:w.Foreseen now)
 (lim:Int) (hlm':0≤lim):
 (w.restart now).delay now charge delay≤lim ↔ delay≤lim∧(w.restart now).FreeAt charge (now+lim):=by
 have hbl:=restart_blocked w now
 obtain ⟨hend,hcool⟩:=hfor
 unfold Window.delay Window.FreeAt
 rw[hbl]
 by_cases hover:(w.restart now).Over charge
 · have hsame:w.restart now=w:=if_neg fun h=>lapsed_not_over hlimit h hover
   rw[hsame] at hover ⊢
   simp only[hover,forall_const]
   rw[if_pos (by exact hover)]
   simp only[sub,maxDuration,minDuration] at *
   omega
 · simp only[hover,false_imp_iff,true_and]
   rw[if_neg (by exact hover)]
   simp only[sub,maxDuration,minDuration] at *
   omega

theorem check_le_iff {seen:List Key} (h:c.check now seen delay charges=(c',some d))
 (hfor:∀ charge∈charges,∀ w,c.windows charge.key=some w→ w.Foreseen now) (lim:Int) (hlimit:0≤lim):
 d≤lim ↔ delay≤lim∧∀ charge∈charges,∀ w,c'.windows charge.key=some w→ w.FreeAt charge (now+lim):=by
 have hchk:=checked_of_check h
 induction charges generalizing c seen delay with
 | nil=>
  cases h
  simp
 | cons charge rest ih=>
  obtain ⟨-,-,w,hw,hw',hfits,-⟩:=hchk.passed charge mem_cons_self
  obtain ⟨hfst,hrest⟩:=forall_mem_cons.mp hfor
  have hdis:=nodup_cons.mp hchk.distinct
  rw[Coordinator.check,hw] at h
  dsimp only at h
  split at h
  next=>simp at h
  next=>
   have hkept:∀ oth∈rest,∀ w',(c.put charge.key (w.restart now)).windows oth.key=some w'→ w'.Foreseen now:=by
    grind [put_ne]
   have hlast:=ih h hkept (checked_of_check h)
   rw[restart_delay_le_iff hfits (hfst w hw) lim hlimit,and_assoc] at hlast
   simpa[hw'] using hlast

theorem Window.FreeAt.later {t t':Int} (h:w.FreeAt charge t) (hlat:t≤t'):w.FreeAt charge t':=
 ⟨fun hover=>(h.1 hover).trans hlat,h.2.trans hlat⟩

/-- A refused request is admitted from the reported delay on and not before. -/
theorem refused_exactly_until_delay (hcall:c.tryAcquire false charges now=(c',.delayed d))
 (hforeseen:∀ charge∈charges,∀ w,c.windows charge.key=some w→ w.Foreseen now):
 0<d∧(∀ t,now+d≤t→(c'.tryAcquire false charges t).2=.admitted)∧
  ∀ t,t<now+d → ∃ wait,(c'.tryAcquire false charges t).2=.delayed wait:=by
 have hsome:charges≠[]:=by
  rintro rfl
  cases hcall
 rw[Coordinator.tryAcquire,if_neg (by simp),if_neg hsome] at hcall
 split at hcall
 next=>cases hcall
 next hche=>
  split at hcall
  next hpos=>
   cases hcall
   have hchk:=checked_of_check hche
   have hval:∀ charge∈charges,Valid c' charge:=by
    intro charge hch
    obtain ⟨hcost,hrsv,w,-,hw,hlimit,-⟩:=hchk.passed charge hch
    exact ⟨hcost,hrsv,_,hw,by rwa[restart_quota]⟩
   have hrea:∀ t,(c'.tryAcquire false charges t).2=.admitted ↔
     ∀ charge∈charges,∀ w,c'.windows charge.key=some w→ w.FreeAt charge t:=by
    intro t
    rw[admitted_iff]
    refine ⟨fun h charge hch w hw=>?_,fun h=>⟨rfl,hsome,hchk.distinct,fun charge hch=>?_⟩⟩
    · obtain ⟨-,-,w',hw',hlimit,hfits⟩:=h.2.2.2 charge hch
      grind [restart_fits_iff]
    · obtain ⟨hcost,hrsv,w,hw,hlimit⟩:=hval charge hch
      exact ⟨hcost,hrsv,w,hw,hlimit,(restart_fits_iff hlimit t).mpr (h charge hch w hw)⟩
   refine ⟨hpos,fun t ht=>(hrea t).mpr ?_,fun t ht=>?_⟩
   · have hall:=((check_le_iff hche hforeseen (t-now) (by omega)).mp (by omega)).2
     grind
   · have huns:∀ charge∈charges,charge.key∉([]:List Key):=by simp
     obtain ⟨c'',wait,hche',-⟩:=check_of_valid hval hchk.distinct huns t 0
     have href:(c'.tryAcquire false charges t).2≠.admitted:=by
      intro hadm
      have hall:∀ charge∈charges,∀ w,c'.windows charge.key=some w→ w.FreeAt charge (now+max 0 (t-now)):=
       fun charge hch w hw=>((hrea t).mp hadm charge hch w hw).later (by omega)
      have:=(check_le_iff hche hforeseen _ (Int.le_max_left 0 _)).mpr ⟨Int.le_max_left 0 _,hall⟩
      omega
     refine ⟨wait,?_⟩
     rw[Coordinator.tryAcquire,if_neg (by simp),if_neg hsome,hche'] at href ⊢
     grind
  next=>cases hcall
end

def coolingDown:Coordinator where
 windows key:=
  if key=⟨.venue,"okx/direct"⟩ then
   some {quota:=⟨10,60⟩,valid:=by decide,start:=0,used:=9}
  else if key=⟨.endpoint,"okx/direct/trade"⟩ then
   some {quota:=⟨4,1⟩,valid:=by decide,start:=0,used:=3,blockedUntil:=100}
  else none

theorem refused_until_cooldown_ends :
 let charges:=[⟨⟨.venue,"okx/direct"⟩,3,0⟩,⟨⟨.endpoint,"okx/direct/trade"⟩,3,0⟩]
 (coolingDown.tryAcquire false charges 2).2=.delayed 98∧
  (∀ t,100≤t→((coolingDown.tryAcquire false charges 2).1.tryAcquire false charges t).2=.admitted)∧
  ∀ t,t<100 → ∃ wait,((coolingDown.tryAcquire false charges 2).1.tryAcquire false charges t).2=.delayed wait:=by
 intro charges
 have hcall:(coolingDown.tryAcquire false charges 2).2=.delayed 98:=by decide
 refine ⟨hcall,(refused_exactly_until_delay (Prod.ext rfl hcall) ?_).2⟩
 rw[forall_mem_cons,forall_mem_singleton]
 constructor<;>rintro w ⟨⟩<;>exact ⟨by decide,by decide⟩

theorem far_cooldown_outlasts_delay :
 let key : Key:=⟨.endpoint,"bybit/direct/trade"⟩
 let blocked:=((Coordinator.configure {} key ⟨10,1000000000⟩ 0).getD {}).block key (9223372036854775807*10^6)
 let refused:=blocked.tryAcquire false [⟨key,1,0⟩] 0
 refused.2=.delayed 9223372036854775807∧
  (refused.1.tryAcquire false [⟨key,1,0⟩] 9223372036854775807).2=.delayed 9223372036854775807:=by
 decide

/-! ## Sessions: calls one after the other under the lock -/

structure Session where
 coordinator:Coordinator:={}
 clock:Int
 granted:Key→List Grant:=fun _=>[]

inductive Event where
 | configure (key:Key) (quota:Quota) (now:Int)
 | acquire (ended:Bool) (charges:List Charge) (now:Int)
 | block (key:Key) (limit:Int)

def grants (c:Coordinator) (charges:List Charge) (now:Int) (key:Key):List Grant:=
 charges.filterMap fun charge=>
  if charge.key=key then
   (c.windows key).map fun w=>{time:=now,start:=w.start,cost:=charge.cost.toInt}
  else none

def Session.acquired (s:Session) (charges:List Charge) (now:Int) (result:Coordinator×Outcome):Session where
 coordinator:=result.1
 clock:=now
 granted key:=s.granted key++if result.2=.admitted then grants result.1 charges now key else []

def step (s:Session):Event→Option Session
 | .configure key quota now=>
  if s.clock≤now then
   some {s with clock:=now,coordinator:=(s.coordinator.configure key quota now).getD s.coordinator}
  else none
 | .acquire ended charges now=>
  if s.clock≤now then some (s.acquired charges now (s.coordinator.tryAcquire ended charges now)) else none
 | .block key limit=>some {s with coordinator:=s.coordinator.block key limit}

/-! ## What no call undoes -/

def Keeps (c c':Coordinator):Prop:=
 ∀ key w,c.windows key=some w → ∃ w',c'.windows key=some w'∧w'.quota=w.quota∧w.blockedUntil≤w'.blockedUntil

section
variable {c c' c'':Coordinator} {now:Int}

theorem keeps_refl (c:Coordinator):Keeps c c:=fun _ w hw=>⟨w,hw,rfl,Int.le_refl _⟩

theorem Keeps.trans (h:Keeps c c') (h':Keeps c' c''):Keeps c c'':=by
 intro key w hw
 obtain ⟨w',hw',hquote,hbl⟩:=h key w hw
 obtain ⟨w'',hw'',hqu',hbl'⟩:=h' key w' hw'
 grind

theorem keeps_put {key:Key} {w':Window}
 (h:∀ w,c.windows key=some w→ w'.quota=w.quota∧w.blockedUntil≤w'.blockedUntil):
 Keeps c (c.put key w'):=by
 intro oth w hw
 by_cases hkey:oth=key
 · grind [put_self]
 · exact ⟨w,by rw[put_ne _ _ hkey,hw],rfl,Int.le_refl _⟩

theorem Rolled.keeps (h:Rolled now c c'):Keeps c c':=by
 intro key w hw
 obtain hsame | hrs:=h key
 · grind
 · rw[hw] at hrs
   exact ⟨w.restart now,hrs,restart_quota w now,by rw[restart_blocked]⟩

theorem keeps_spend (charges:List Charge) (c:Coordinator):Keeps c (charges.foldl Coordinator.spend c):=by
 induction charges generalizing c with
 | nil=>exact keeps_refl c
 | cons charge rest ih=>
  apply Keeps.trans _ (ih (c.spend charge))
  intro key w hw
  by_cases hkey:key=charge.key
  · subst hkey
    refine ⟨w.spend charge.cost,?_,rfl,Int.le_refl _⟩
    rw[spend_self,hw]
    rfl
  · exact ⟨w,by rw[spend_ne c charge hkey,hw],rfl,Int.le_refl _⟩

theorem keeps_tryAcquire (c:Coordinator) (ended:Bool) (charges:List Charge) (now:Int):
 Keeps c (c.tryAcquire ended charges now).1:=by
 have htri:=tried_of_tryAcquire c ended charges now
 generalize c.tryAcquire ended charges now=result at htri
 obtain ⟨c',outcome⟩:=result
 cases htri with
 | refused hrol=>exact hrol.keeps
 | admitted _ hrol=>exact hrol.keeps.trans (keeps_spend charges _)

theorem keeps_block (c:Coordinator) (key:Key) (lim:Int):Keeps c (c.block key lim):=by
 grind [Coordinator.block,keeps_refl,keeps_put,Int.le_of_lt]

theorem keeps_step {s next:Session} {e:Event} (h:step s e=some next):Keeps s.coordinator next.coordinator:=by
 cases e with
 | configure key quota now=>
  simp only[step,ite_none_right_eq_some,some.injEq] at h
  obtain ⟨-,rfl⟩:=h
  obtain hsame | ⟨hnone,w,-,-,-,-,hnew⟩:=configured_cases s.coordinator key quota now
  all_goals grind [keeps_refl,keeps_put]
 | acquire ended charges now=>
  simp only[step,ite_none_right_eq_some,some.injEq] at h
  obtain ⟨-,rfl⟩:=h
  exact keeps_tryAcquire s.coordinator ended charges now
 | block key lim=>
  simp only[step,some.injEq] at h
  subst h
  exact keeps_block s.coordinator key lim

theorem block_reaches {key:Key} {w:Window} (hw:c.windows key=some w) (lim:Int):
 ∃ w',(c.block key lim).windows key=some w'∧lim≤w'.blockedUntil:=by
 unfold Coordinator.block
 rw[hw]
 dsimp only
 split
 next=>exact ⟨_,put_self _ _ _,Int.le_refl _⟩
 grind

end

/-! ## Ledgers -/

structure Ledger (clock:Int) (w:Window) (granted:List Grant):Prop where
 windowed:Windowed w.quota.interval w.quota.limit.toInt granted
 current:spentIn granted w.start=w.used.toInt
 begun:w.start≤clock
 past:∀ g∈granted,g.start=w.start∨g.start+w.quota.interval≤w.start

section
variable {clock now:Int} {w:Window} {granted:List Grant}

theorem Ledger.later (h:Ledger clock w granted) (hck:clock≤now):Ledger now w granted:=
 {h with
   begun:=by
    have:=h.begun
    omega}

theorem Ledger.restart (h:Ledger clock w granted) (hck:clock≤now):Ledger now (w.restart now) granted:=by
 unfold Window.restart
 split
 next hlap=>
  have hpos:=w.valid.2
  have hend:w.start+w.quota.interval≤now:=by simpa[Window.lapsed] using hlap
  have hpast:∀ g∈granted,g.start+w.quota.interval≤now:=by
   intro g hg
   have:=h.past g hg
   omega
  refine ⟨h.windowed,?_,Int.le_refl now,fun g hg=>.inr (hpast g hg)⟩
  show spentIn granted now=0
  grind [spentIn_eq_zero]
 next=>exact h.later hck

theorem Ledger.used_nonneg (h:Ledger clock w granted):0≤w.used.toInt:=by
 rw[←h.current]
 apply spent_nonneg
 intro g hg
 exact h.windowed.positive g (mem_of_mem_filter hg)

theorem Ledger.used_le (h:Ledger clock w granted):w.used.toInt≤w.quota.limit.toInt:=by
 rw[←h.current]
 exact h.windowed.bounded w.start

theorem toInt_add_of_lt {a b:Int64} (ha:0≤a.toInt) (hb:0≤b.toInt) (hsum:a.toInt+b.toInt<2^63):
 (a+b).toInt=a.toInt+b.toInt:=by
 rw[Int64.toInt_add]
 apply Int.bmod_eq_of_le<;>omega

theorem toInt_sub_of_nonneg {a b:Int64} (ha:0≤a.toInt) (hb:0≤b.toInt):
 (a-b).toInt=a.toInt-b.toInt:=by
 grind [a.toInt_lt,b.toInt_lt,Int64.toInt_sub,Int.bmod_eq_of_le]

theorem restart_valid (h:w.quota.limit.toInt<2^62) (now:Int):(w.restart now).quota.limit.toInt<2^62:=by
 rwa[restart_quota]

theorem Ledger.room (h:Ledger clock w granted) (hsma:w.quota.limit.toInt<2^62) {charge:Charge}
 (hcost:0<charge.cost) (hrsv:0≤charge.reserve) (hlimit:¬w.quota.limit-charge.reserve<charge.cost)
 (hfits:w.Fits now charge):
 (w.used+charge.cost).toInt=w.used.toInt+charge.cost.toInt∧
  w.used.toInt+charge.cost.toInt≤w.quota.limit.toInt-charge.reserve.toInt:=by
 have hroom:=hfits.room
 have hval:=w.valid.1
 have hused:=h.used_nonneg
 have hused':=h.used_le
 simp only[Int64.lt_iff_toInt_lt,Int64.le_iff_toInt_le,Int64.toInt_zero,not_lt] at hcost hrsv hlimit hroom hval
 have hleft:=toInt_sub_of_nonneg (Int.le_of_lt hval) hrsv
 rw[hleft] at hlimit hroom
 have hsum:(w.used+charge.cost).toInt=w.used.toInt+charge.cost.toInt:=by
  apply toInt_add_of_lt hused (Int.le_of_lt hcost)
  omega
 grind

theorem Ledger.spend (h:Ledger now w granted) (hsma:w.quota.limit.toInt<2^62) {charge:Charge}
 (hcost:0<charge.cost) (hrsv:0≤charge.reserve) (hlimit:¬w.quota.limit-charge.reserve<charge.cost)
 (hfr:w.lapsed now=false) (hfits:w.Fits now charge):
 Ledger now (w.spend charge.cost) (granted++[{time:=now,start:=w.start,cost:=charge.cost.toInt}]):=by
 obtain ⟨hsum,hroom⟩:=h.room hsma hcost hrsv hlimit hfits
 have hbg:=h.begun
 have hend:now<w.start+w.quota.interval:=by simpa[Window.lapsed] using hfr
 rw[Int64.lt_iff_toInt_lt,Int64.toInt_zero] at hcost
 rw[Int64.le_iff_toInt_le,Int64.toInt_zero] at hrsv
 refine ⟨?_,?_,hbg,?_⟩
 · apply h.windowed.concat ⟨hbg,hend⟩ h.past hcost
   show spentIn granted w.start+charge.cost.toInt≤w.quota.limit.toInt
   rw[h.current]
   omega
 · show spentIn _ w.start=(w.used+charge.cost).toInt
   rw[spentIn_concat,if_pos rfl,h.current,hsum]
 · intro g hg
   obtain hg | hg:=mem_append.mp hg
   · exact h.past g hg
   · rw[mem_singleton.mp hg]
     exact .inl rfl

theorem ledger_new (w:Window) (hused:w.used=0):Ledger w.start w [] where
 windowed:=by
  apply windowed_nil
  have hval:=w.valid.1
  rw[Int64.lt_iff_toInt_lt,Int64.toInt_zero] at hval
  omega
 current:=by
  rw[hused]
  rfl
 begun:=Int.le_refl _
 past:=by simp

end

def Event.Small:Event→Prop
 | .configure _ quota _=>quota.limit.toInt<2^62
 | _=>True

instance : ∀ e:Event,Decidable e.Small
 | .configure _ quota _=>inferInstanceAs (Decidable (quota.limit.toInt<2^62))
 | .acquire ..=>.isTrue trivial
 | .block ..=>.isTrue trivial

structure Session.Sound (s:Session):Prop where
 unused:∀ key,s.coordinator.windows key=none→ s.granted key=[]
 ledger:∀ key w,s.coordinator.windows key=some w→Ledger s.clock w (s.granted key)
 small:∀ key w,s.coordinator.windows key=some w→ w.quota.limit.toInt<2^62

section
variable {s next:Session} {c':Coordinator} {key:Key} {charge:Charge} {charges:List Charge} {now:Int}

theorem grants_of_notMem (c:Coordinator) (now:Int) (hkey:key∉charges.map Charge.key):grants c charges now key=[]:=by
 apply filterMap_eq_nil_iff.mpr
 grind

theorem grants_of_mem {c:Coordinator} {w:Window} (hw:c.windows charge.key=some w)
 (hnd:(charges.map Charge.key).Nodup) (hch:charge∈charges):
 grants c charges now charge.key=[{time:=now,start:=w.start,cost:=charge.cost.toInt}]:=by
 induction charges with
 | nil=>simp at hch
 | cons head rest ih=>
  rw[map_cons,nodup_cons] at hnd
  unfold grants at ih ⊢
  obtain rfl | hch:=mem_cons.mp hch
  · have hrest:=grants_of_notMem c now hnd.1
    unfold grants at hrest
    grind
  · grind

theorem Session.Sound.rolled (h:s.Sound) (hck:s.clock≤now) (hrol:Rolled now s.coordinator c'):
  Session.Sound {s with coordinator:=c',clock:=now} where
 unused:=by
  intro key hnone
  apply h.unused
  obtain hsame | hrs:=hrol key
  · exact hsame.symm.trans hnone
  · exact map_eq_none_iff.mp (hrs.symm.trans hnone)
 ledger:=by
  intro key w hw
  obtain hsame | hrs:=hrol key
  · exact (h.ledger key w (hsame.symm.trans hw)).later hck
  · obtain ⟨w',hw',rfl⟩:=map_eq_some_iff.mp (hrs.symm.trans hw)
    exact (h.ledger key w' hw').restart hck
 small:=by
  intro key w hw
  obtain hsame | hrs:=hrol key
  · exact h.small key w (hsame.symm.trans hw)
  · obtain ⟨w',hw',rfl⟩:=map_eq_some_iff.mp (hrs.symm.trans hw)
    exact restart_valid (h.small key w' hw') now

structure Spent (s next:Session) (now:Int) (charge:Charge) (w:Window):Prop where
 window:next.coordinator.windows charge.key=some w
 granted:next.granted charge.key = s.granted charge.key++[{time:=now,start:=w.start,cost:=charge.cost.toInt}]
 usage:(next.coordinator.used charge.key now).toInt =
  (s.coordinator.used charge.key now).toInt+charge.cost.toInt
 reserved:(next.coordinator.used charge.key now).toInt≤w.quota.limit.toInt-charge.reserve.toInt

structure Untouched (s next:Session) (now:Int) (key:Key):Prop where
 granted:next.granted key=s.granted key
 usage:next.coordinator.used key now=s.coordinator.used key now

theorem untouched_of_notMem {d:Int} (hchk:Checked s.coordinator c' now 0 d [] charges)
  (hkey:key∉charges.map Charge.key):
  Untouched s (s.acquired charges now (charges.foldl Coordinator.spend c',.admitted)) now key where
 granted:=by simp[Session.acquired,grants_of_notMem _ now hkey]
 usage:=by
  unfold Coordinator.used
  rw[Session.acquired,foldl_spend_of_notMem hkey,hchk.others key hkey]

theorem Session.Sound.spent (h:s.Sound) (hck:s.clock≤now) {d:Int}
 (hchk:Checked s.coordinator c' now 0 d [] charges) (hd:d≤0) (hch:charge∈charges):
 ∃ w,Spent s (s.acquired charges now (charges.foldl Coordinator.spend c',.admitted)) now charge w∧
  w.quota.limit.toInt<2^62∧
  Ledger now w (s.granted charge.key++[{time:=now,start:=w.start,cost:=charge.cost.toInt}]):=by
 obtain ⟨hcost,hrsv,w,hw,hrs,hlimit,hfits⟩:=hchk.passed charge hch
 have hquote:=restart_quota w now
 have hsma:=restart_valid (h.small _ w hw) now
 have hled:=(h.ledger _ w hw).restart hck
 have hfr:=restart_fresh w now
 rw[←hquote] at hlimit
 obtain ⟨hsum,hroom⟩:=hled.room hsma hcost hrsv hlimit (hfits hd)
 have hwin:(charges.foldl Coordinator.spend c').windows charge.key=some ((w.restart now).spend charge.cost):=by
  rw[foldl_spend_of_mem hchk.distinct hch,hrs]
  rfl
 have hbef:=used_of_window hw now
 have haf:(charges.foldl Coordinator.spend c').used charge.key now=(w.restart now).used+charge.cost:=by
  rw[Coordinator.used,hwin]
  exact if_neg (ne_true_of_eq_false hfr)
 refine ⟨(w.restart now).spend charge.cost,⟨hwin,?_,?_,?_⟩,hsma,?_⟩
 · simp only[Session.acquired,if_pos]
   rw[grants_of_mem hwin hchk.distinct hch]
 · simp only[Session.acquired]
   rw[hbef,haf,hsum]
 · simp only[Session.acquired]
   rw[haf,hsum]
   exact hroom
 · exact hled.spend hsma hcost hrsv hlimit hfr (hfits hd)

theorem Session.Sound.window_cases (h:s.Sound) (hck:s.clock≤now) (ended:Bool) (charges:List Charge) {w':Window}
 (hw':(s.coordinator.tryAcquire ended charges now).1.windows key=some w'):
 ∃ w,s.coordinator.windows key=some w∧
  (w'=w∨w'=w.restart now∨w'.quota=w.quota∧∃ charge∈charges,charge.key=key∧
   w'.used.toInt≤w.quota.limit.toInt-charge.reserve.toInt):=by
 have htri:=tried_of_tryAcquire s.coordinator ended charges now
 generalize s.coordinator.tryAcquire ended charges now=result at htri hw'
 obtain ⟨c',outcome⟩:=result
 cases htri with
 | refused hrol=>
  obtain hsame | hrs:=hrol key
  · grind
  · obtain ⟨w,hw,rfl⟩:=map_eq_some_iff.mp (hrs.symm.trans hw')
    grind
 | admitted hchk _ hd=>
  by_cases hkey:key∈charges.map Charge.key
  · obtain ⟨charge,hch,rfl⟩:=mem_map.mp hkey
    obtain ⟨hcost,hrsv,w,hw,hrs,hlimit,hfits⟩:=hchk.passed charge hch
    have hquote:=restart_quota w now
    rw[←hquote] at hlimit
    obtain ⟨hsum,hroom⟩:=
     ((h.ledger _ w hw).restart hck).room (restart_valid (h.small _ w hw) now) hcost hrsv hlimit (hfits hd)
    dsimp only at hw'
    rw[foldl_spend_of_mem hchk.distinct hch,hrs] at hw'
    cases hw'
    refine ⟨w,hw,.inr (.inr ⟨hquote,charge,hch,rfl,?_⟩)⟩
    show ((w.restart now).used+charge.cost).toInt≤_
    grind
  · dsimp only at hw'
    rw[foldl_spend_of_notMem hkey,hchk.others key hkey] at hw'
    exact ⟨w',hw',.inl rfl⟩

theorem Session.Sound.admitted (h:s.Sound) (hck:s.clock≤now) {d:Int}
 (hchk:Checked s.coordinator c' now 0 d [] charges) (hd:d≤0):
 Session.Sound (s.acquired charges now (charges.foldl Coordinator.spend c',.admitted)):=by
 have hoth:∀ key,key∉charges.map Charge.key →
   (charges.foldl Coordinator.spend c').windows key=s.coordinator.windows key:=by
  intro key hkey
  rw[foldl_spend_of_notMem hkey,hchk.others key hkey]
 refine ⟨?_,?_,?_⟩
 · intro key hnone
   by_cases hkey:key∈charges.map Charge.key
   · obtain ⟨charge,hch,rfl⟩:=mem_map.mp hkey
     obtain ⟨w,hspe,-⟩:=h.spent hck hchk hd hch
     rw[hspe.window] at hnone
     simp at hnone
   · rw[(untouched_of_notMem hchk hkey).granted]
     exact h.unused key ((hoth key hkey).symm.trans hnone)
 · intro key w hw
   by_cases hkey:key∈charges.map Charge.key
   · obtain ⟨charge,hch,rfl⟩:=mem_map.mp hkey
     obtain ⟨w',hspe,-,hled⟩:=h.spent hck hchk hd hch
     cases hspe.window.symm.trans hw
     rw[hspe.granted]
     exact hled
   · rw[(untouched_of_notMem hchk hkey).granted]
     exact (h.ledger key w ((hoth key hkey).symm.trans hw)).later hck
 · intro key w hw
   by_cases hkey:key∈charges.map Charge.key
   · obtain ⟨charge,hch,rfl⟩:=mem_map.mp hkey
     obtain ⟨w',hspe,hsma,-⟩:=h.spent hck hchk hd hch
     cases hspe.window.symm.trans hw
     exact hsma
   · exact h.small key w ((hoth key hkey).symm.trans hw)

theorem acquired_refused {outcome:Outcome} (hout:outcome≠.admitted):
 s.acquired charges now (c',outcome) = {s with coordinator:=c',clock:=now}:=by
 simp[Session.acquired,hout]

theorem Session.Sound.acquired (h:s.Sound) (hck:s.clock≤now) (ended:Bool) (charges:List Charge):
 (s.acquired charges now (s.coordinator.tryAcquire ended charges now)).Sound:=by
 have htri:=tried_of_tryAcquire s.coordinator ended charges now
 generalize s.coordinator.tryAcquire ended charges now=result at htri
 obtain ⟨c',outcome⟩:=result
 cases htri with
 | refused hrol hout=>
  rw[acquired_refused hout]
  exact h.rolled hck hrol
 | admitted hchk _ hd=>exact h.admitted hck hchk hd

theorem Session.Sound.put (h:s.Sound) (w:Window) (hsma:w.quota.limit.toInt<2^62)
  (hled:Ledger s.clock w (s.granted key)):
  Session.Sound {s with coordinator:=s.coordinator.put key w} where
 unused:=by
  intro oth hnone
  by_cases hkey:oth=key
  · grind [put_self]
  · rw[put_ne _ _ hkey] at hnone
    exact h.unused oth hnone
 ledger:=by
  intro oth w' hw'
  by_cases hkey:oth=key
  · grind [put_self]
  · rw[put_ne _ _ hkey] at hw'
    exact h.ledger oth w' hw'
 small:=by
  intro oth w' hw'
  by_cases hkey:oth=key
  · grind [put_self]
  · rw[put_ne _ _ hkey] at hw'
    exact h.small oth w' hw'

theorem Session.Sound.tick (h:s.Sound) (hck:s.clock≤now):Session.Sound {s with clock:=now}:=
 h.rolled hck fun _=>.inl rfl

theorem sound_step {e:Event} (h:s.Sound) (hsma:e.Small) (hstep:step s e=some next):next.Sound:=by
 cases e with
 | configure key quota now=>
  simp only[step,ite_none_right_eq_some,some.injEq] at hstep
  obtain ⟨hck,rfl⟩:=hstep
  obtain hsame | ⟨hnone,w,hquote,hstrt,hused,-,hnew⟩:=configured_cases s.coordinator key quota now
  · rw[hsame]
    exact h.tick hck
  · rw[hnew,getD_some]
    have hled:=ledger_new w hused
    rw[hstrt,←h.unused key hnone] at hled
    apply (h.tick hck).put w _ hled
    rw[hquote]
    exact hsma
 | acquire ended charges=>
  simp only[step,ite_none_right_eq_some,some.injEq] at hstep
  obtain ⟨hck,rfl⟩:=hstep
  exact h.acquired hck ended charges
 | block key lim=>
  simp only[step,some.injEq] at hstep
  subst hstep
  unfold Coordinator.block
  split
  next=>exact h
  next w hw=>
   split
   next=>
    have hled:=h.ledger key w hw
    exact h.put _ (h.small key w hw) ⟨hled.windowed,hled.current,hled.begun,hled.past⟩
   next=>exact h

theorem sound_run {st1:Int} {evs:List Event} (hsma:∀ e∈evs,e.Small)
 (hrun:run step {clock:=st1} evs=some s):s.Sound:=by
 apply invariant_along Session.Sound _ _ (along_of_forall hsma _) hrun
 · grind [sound_step]
 · exact ⟨fun _ _=>rfl,by simp,by simp⟩

/-- Neither a window nor any interval of its length holds more than the limit. -/
structure Session.Bounded (s:Session):Prop where
 window:∀ key w,s.coordinator.windows key=some w → ∀ start,spentIn (s.granted key) start≤w.quota.limit.toInt
 interval:∀ key w,s.coordinator.windows key=some w →
  ∀ first,spentBetween (s.granted key) first (first+w.quota.interval)≤2*w.quota.limit.toInt

/-- Charges are spent all together or not at all. -/
def AllOrNone (s next:Session) (charges:List Charge) (now:Int) (outcome:Outcome):Prop:=
 (outcome=.admitted∧(∀ charge∈charges,∃ w,Spent s next now charge w)∧
  ∀ key,key∉charges.map Charge.key→Untouched s next now key)∨
 (outcome≠.admitted∧∀ key,Untouched s next now key)

theorem Session.Sound.allOrNone (h:s.Sound) (hck:s.clock≤now) (ended:Bool) (charges:List Charge):
 AllOrNone s (s.acquired charges now (s.coordinator.tryAcquire ended charges now)) charges now
  (s.coordinator.tryAcquire ended charges now).2:=by
 have htri:=tried_of_tryAcquire s.coordinator ended charges now
 generalize s.coordinator.tryAcquire ended charges now=result at htri
 obtain ⟨c',outcome⟩:=result
 cases htri with
 | refused hrol hout=>
  rw[acquired_refused hout]
  exact .inr ⟨hout,fun key=>⟨rfl,hrol.used_eq key⟩⟩
 | admitted hchk _ hd=>
  refine .inl ⟨rfl,fun charge hch=>?_,fun key hkey=>untouched_of_notMem hchk hkey⟩
  obtain ⟨w,hspe,-⟩:=h.spent hck hchk hd hch
  exact ⟨w,hspe⟩

/-- No window admits more than its limit, and charges are taken all together or not at all. -/
theorem budgets_hold {start:Int} {events:List Event} (hsmall:∀ e∈events,e.Small)
 (hrun:run step {clock:=start} events=some s):
 s.Bounded∧∀ ended charges now next,step s (.acquire ended charges now)=some next →
  AllOrNone s next charges now (s.coordinator.tryAcquire ended charges now).2:=by
 have hso:=sound_run hsmall hrun
 refine ⟨⟨fun key w hw=>?_,fun key w hw=>?_⟩,fun ended charges now next hstep=>?_⟩
 · exact (hso.ledger key w hw).windowed.bounded
 · exact (hso.ledger key w hw).windowed.spentBetween_le
 · simp only[step,ite_none_right_eq_some,some.injEq] at hstep
   obtain ⟨hck,rfl⟩:=hstep
   exact hso.allOrNone hck ended charges

end

def sharedBudgets:List Event:=
 [.configure ⟨.venue,"okx/direct"⟩ {limit:=10,interval:=60} 0,
  .configure ⟨.endpoint,"okx/direct/trade"⟩ {limit:=4,interval:=1} 0,
  .acquire false [⟨⟨.venue,"okx/direct"⟩,3,2⟩,⟨⟨.endpoint,"okx/direct/trade"⟩,3,0⟩] 0,
  .acquire false [⟨⟨.venue,"okx/direct"⟩,3,2⟩,⟨⟨.endpoint,"okx/direct/trade"⟩,3,0⟩] 2]

theorem budgets_hold_shared :
 ∃ s,run step {clock:=0} sharedBudgets=some s∧
  spentIn (s.granted ⟨.venue,"okx/direct"⟩) 0=6∧s.Bounded∧
  ∀ ended charges now next,step s (.acquire ended charges now)=some next →
   AllOrNone s next charges now (s.coordinator.tryAcquire ended charges now).2:=by
 have hspe:∃ s,run step {clock:=0} sharedBudgets=some s∧
   spentIn (s.granted ⟨.venue,"okx/direct"⟩) 0=6:=
  ⟨_,rfl,by decide⟩
 obtain ⟨s,hrun,hsix⟩:=hspe
 exact ⟨s,hrun,hsix,budgets_hold (by decide) hrun⟩

def overflowingBudget:List Event:=
 [.configure ⟨.venue,"okx/direct"⟩ {limit:=4611686018427387904,interval:=60} 0,
  .acquire false [⟨⟨.venue,"okx/direct"⟩,4611686018427387904,0⟩] 0,
  .acquire false [⟨⟨.venue,"okx/direct"⟩,4611686018427387904,0⟩] 1]

theorem overflowing_budget_exceeded :
 ∃ s w,run step {clock:=0} overflowingBudget=some s∧
  s.coordinator.windows ⟨.venue,"okx/direct"⟩=some w∧
  w.quota.limit.toInt<spentIn (s.granted ⟨.venue,"okx/direct"⟩) 0∧¬s.Bounded:=by
 have hover:∃ s w,run step {clock:=0} overflowingBudget=some s∧
   s.coordinator.windows ⟨.venue,"okx/direct"⟩=some w∧
   w.quota.limit.toInt<spentIn (s.granted ⟨.venue,"okx/direct"⟩) 0:=
  ⟨_,_,rfl,rfl,by decide⟩
 obtain ⟨s,w,hrun,hw,hlt⟩:=hover
 refine ⟨s,w,hrun,hw,hlt,fun hbou=>?_⟩
 have:=hbou.window _ w hw 0
 omega

end BolterTrader.RateLimit
