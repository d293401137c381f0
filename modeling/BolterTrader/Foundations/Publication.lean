import BolterTrader.Foundations.Threads

/-! Publishers of a shared value: each one finds out where to publish, reads the value and
emits what it has read, in steps of their own. -/
namespace BolterTrader.Foundations.Publication
open Threads List Option

inductive Stage (α:Type*) where
 | begun
 | bound (target:ℕ)
 | ready (target:ℕ) (value:α)

structure Channel (α:Type*) where
 retained:Option α:=none
 publications:List (Stage α):=[]

variable {α:Type*} {c c':Channel α} {target i:ℕ} {value:α}

def Stage.Unread (target:ℕ):Stage α→Prop
 | .begun=>True
 | .bound k=>k=target
 | .ready ..=>False

def Stage.held (target:ℕ):Stage α→Option α
 | .ready k value=>if k=target then some value else none
 | _=>none

def Stage.Known (target:ℕ):Stage α→Prop
 | .begun=>True
 | .bound k=>k≤target
 | .ready k _=>k≤target

namespace Channel

def publish (c:Channel α):Channel α:={c with publications:=c.publications++[.begun]}

def bind (c:Channel α) (i:ℕ) (target:Option ℕ):Option (Channel α):=
 match c.publications[i]?,target with
 | some .begun,some k=>some {c with publications:=c.publications.set i (.bound k)}
 | some .begun,none=>some {c with publications:=c.publications.eraseIdx i}
 | _,_=>none

def read (c:Channel α) (i:ℕ) (value:α):Option (Channel α):=
 match c.publications[i]? with
 | some (.bound k)=>some {c with publications:=c.publications.set i (.ready k value)}
 | _=>none

def take (c:Channel α) (i:ℕ) (target:Option ℕ) (value:α):Option (Channel α):=
 match c.publications[i]?,target with
 | some .begun,some k=>some {c with publications:=c.publications.set i (.ready k value)}
 | some .begun,none=>some {c with publications:=c.publications.eraseIdx i}
 | _,_=>none

def emit (c:Channel α) (i target:ℕ):Option (Channel α):=
 match c.publications[i]? with
 | some (.ready k value)=>
  some {retained:=if k=target then some value else c.retained,publications:=c.publications.eraseIdx i}
 | _=>none

def reset (c:Channel α):Channel α:={c with retained:=none}
def held (target:ℕ) (c:Channel α):List α:=c.publications.filterMap (Stage.held target)
def Unread (target:ℕ) (c:Channel α):Prop:=∃ stage∈c.publications,stage.Unread target

structure Settling (target:ℕ) (value:α) (c:Channel α):Prop where
 known:∀ stage∈c.publications,stage.Known target
 single:(c.held target).length≤1
 held:∀ v∈c.held target,v=value∨c.Unread target
 retained:∀ v,c.retained=some v→ v=value∨c.Unread target∨value∈c.held target

theorem settling_empty (target:ℕ) (value:α):Settling target value {}:=
 ⟨by simp,by simp[Channel.held],by simp[Channel.held],by simp⟩

theorem Settling.retained_eq (h:c.Settling target value) (hover:c.publications=[]) {v:α}
 (hv:c.retained=some v):v=value:=by
 obtain heq | ⟨stage,hsg,-⟩ | hheld:=h.retained v hv
 all_goals grind [Channel.held]

theorem Settling.publish (h:c.Settling target value) (new:α):c.publish.Settling target new:=by
 have hunr:c.publish.Unread target:=⟨.begun,mem_append_right _ mem_cons_self,trivial⟩
 have hheld:c.publish.held target=c.held target:=by simp[Channel.held,Channel.publish,Stage.held]
 refine ⟨?_,hheld▸h.single,fun _ _=>.inr hunr,fun _ _=>.inr (.inl hunr)⟩
 intro stage hsg
 obtain hold | hnew:=mem_append.mp hsg
 · exact h.known stage hold
 · rw[mem_singleton.mp hnew]
   trivial

theorem Settling.reset (h:c.Settling target value):c.reset.Settling (target+1) value:=by
 have hheld:c.reset.held (target+1)=[]:=by
  apply filterMap_eq_nil_iff.mpr
  intro stage hsg
  have hkno:=h.known stage hsg
  cases stage with
  | begun=>rfl
  | bound=>rfl
  | ready k v=>
   have hle:k≤target:=hkno
   grind [Stage.held]
 refine ⟨?_,by simp[hheld],by simp[hheld],nofun⟩
 intro stage hsg
 have hkno:=h.known stage hsg
 cases stage with
 | begun=>trivial
 | bound | ready=>exact Nat.le_succ_of_le hkno

/-! ## One publication moves -/

section
variable {before mid after:List (Stage α)} {old:Stage α}

theorem held_split (target:ℕ) (h:c.publications=before++old::after):
 c.held target =
  before.filterMap (Stage.held target)++((old.held target).toList++after.filterMap (Stage.held target)):=by
 rw[held,h,filterMap_append,filterMap_cons]
 cases old.held target<;>rfl

theorem held_replaced (target:ℕ) (h:c.publications=before++(mid++after)):
 c.held target=before.filterMap (Stage.held target) ++
  (mid.filterMap (Stage.held target)++after.filterMap (Stage.held target)):=by
 rw[held,h,filterMap_append,filterMap_append]

theorem Unread.replaced (h:c.Unread target) (hc:c.publications=before++old::after)
 (hc':c'.publications=before++(mid++after))
 (hmid:old.Unread target → ∃ stage∈mid,stage.Unread target):c'.Unread target:=by
 obtain ⟨stage,hsg,hunr⟩:=h
 rw[hc,mem_append,mem_cons] at hsg
 obtain hbef | rfl | haf:=hsg
 · exact ⟨stage,by simp[hc',hbef],hunr⟩
 · obtain ⟨new,hnew,hunr⟩:=hmid hunr
   exact ⟨new,by simp[hc',hnew],hunr⟩
 · exact ⟨stage,by simp[hc',haf],hunr⟩

theorem Settling.known_replaced (h:c.Settling target value) (hc:c.publications=before++old::after)
 (hc':c'.publications=before++(mid++after)) (hmid:∀ stage∈mid,stage.Known target):
 ∀ stage∈c'.publications,stage.Known target:=by
 intro stage hsg
 rw[hc'] at hsg
 obtain hnew | hos:=mem_replaced hsg
 · exact hmid stage hnew
 · exact h.known stage (mem_of_others hc hos)

theorem Settling.replaced (h:c.Settling target value) (hc:c.publications=before++old::after)
 (hc':c'.publications=before++(mid++after)) (hret:c'.retained=c.retained)
 (hold:old.held target=none) (hheld:mid.filterMap (Stage.held target)=[])
 (hkno:∀ stage∈mid,stage.Known target)
 (hmid:old.Unread target → ∃ stage∈mid,stage.Unread target):c'.Settling target value:=by
 have hsame:c'.held target=c.held target:=by
  rw[held_split target hc,held_replaced target hc',hold,hheld]
  rfl
 refine ⟨h.known_replaced hc hc' hkno,hsame▸h.single,?_,?_⟩
 · intro v hv
   rw[hsame] at hv
   exact (h.held v hv).imp_right fun hunr=>hunr.replaced hc hc' hmid
 · intro v hv
   rw[hret] at hv
   rw[hsame]
   exact (h.retained v hv).imp_right (Or.imp_left fun hunr=>hunr.replaced hc hc' hmid)

theorem Settling.moved (h:c.Settling target value) (hi:c.publications[i]?=some old) {new:Stage α}
 (hold:old.held target=none) (hnew:new.held target=none) (hkno:new.Known target)
 (hunr:old.Unread target→ new.Unread target):
 Settling target value {c with publications:=c.publications.set i new}:=by
 obtain ⟨before,after,hc,-,hset,-⟩:=exists_split hi
 have hc':c.publications.set i new=before++([new]++after):=hset new
 refine h.replaced hc hc' rfl hold (by simp[hnew]) ?_ fun hpd=>⟨new,mem_cons_self,hunr hpd⟩
 grind

theorem Settling.bind (h:c.Settling target value) (hstep:c.bind i (some target)=some c'):
 c'.Settling target value:=by
 unfold Channel.bind at hstep
 split at hstep
 next hbg hk=>
  cases hk
  cases hstep
  exact h.moved hbg rfl rfl (Nat.le_refl target) fun _=>rfl
 next hk=>cases hk
 next=>cases hstep

theorem Settling.ready (h:c.Settling target value) (hnone:c.held target=[]) (hi:c.publications[i]?=some old)
 (hc':c' = {c with publications:=c.publications.set i (.ready target value)}):
 c'.Settling target value:=by
 obtain ⟨before,after,hc,-,hset,-⟩:=exists_split hi
 have hpub:c'.publications=before++([.ready target value]++after):=by
  rw[hc']
  exact hset _
 have hheld:c'.held target=[value]:=by
  rw[held_split target hc,append_eq_nil_iff,append_eq_nil_iff] at hnone
  rw[held_replaced target hpub,hnone.1,hnone.2.2]
  simp[Stage.held]
 refine ⟨h.known_replaced hc hpub ?_,by simp[hheld],by simp[hheld],by simp[hheld]⟩
 intro stage hsg
 rw[mem_singleton.mp hsg]
 exact Nat.le_refl target

theorem Settling.read (h:c.Settling target value) (hnone:c.held target=[]) (hstep:c.read i value=some c'):
 c'.Settling target value:=by
 unfold Channel.read at hstep
 split at hstep
 next k hbou=>
  by_cases hk:k=target
  · subst hk
    exact h.ready hnone hbou (some.inj hstep).symm
  · cases hstep
    have hheld:Stage.held target (.ready k value)=none:=by simp[Stage.held,hk]
    have hkno:k≤target:=h.known (.bound k) (mem_of_getElem? hbou)
    exact h.moved hbou rfl hheld hkno fun hunr=>absurd hunr hk
 next=>cases hstep

theorem Settling.take (h:c.Settling target value) (hnone:c.held target=[])
 (hstep:c.take i (some target) value=some c'):c'.Settling target value:=by
 unfold Channel.take at hstep
 split at hstep
 next hbg hk=>
  cases hk
  exact h.ready hnone hbg (some.inj hstep).symm
 next hk=>cases hk
 next=>cases hstep

theorem Settling.emit (h:c.Settling target value) (hstep:c.emit i target=some c'):
 c'.Settling target value:=by
 unfold Channel.emit at hstep
 split at hstep
 next k v hrea=>
  obtain ⟨before,after,hc,-,-,hera⟩:=exists_split hrea
  have hc':c'.publications=before++([]++after):=by
   grind
  by_cases hk:k=target
  · have hheld:Stage.held target (.ready k v)=some v:=by simp[Stage.held,hk]
    have hsp:=held_split target hc
    rw[hheld] at hsp
    -- it was the only one to hold a value
    have hnone:c'.held target=[]:=by
     have hsg:=h.single
     rw[hsp] at hsg
     rw[held_replaced target hc']
     apply eq_nil_of_length_eq_zero
     grind
    refine ⟨h.known_replaced hc hc' (by simp),by simp[hnone],by simp[hnone],?_⟩
    intro w hw
    rw[←some.inj hstep,if_pos hk] at hw
    cases hw
    have hv:=h.held v (by simp[hsp])
    exact hv.imp_right fun hunr=>.inl (hunr.replaced hc hc' nofun)
  · have hret:c'.retained=c.retained:=by
     rw[←some.inj hstep]
     exact if_neg hk
    exact h.replaced hc hc' hret (by simp[Stage.held,hk]) rfl (by simp) nofun
 next=>cases hstep

end
end Channel
end BolterTrader.Foundations.Publication
