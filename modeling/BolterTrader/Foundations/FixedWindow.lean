import Mathlib.Algebra.Order.BigOperators.Group.List
import Mathlib.Algebra.Order.Ring.Int

/-! Charges admitted in fixed windows of time: each window has a limit of its own, and
the next one begins no sooner than the last has run out. -/
namespace BolterTrader.Foundations.FixedWindow
open List

structure Grant where
 time:Int
 start:Int
 cost:Int

def spent (grants:List Grant):Int:=(grants.map Grant.cost).sum
def spentIn (grants:List Grant) (start:Int):Int:=spent (grants.filter fun g=>g.start=start)

def spentBetween (grants:List Grant) (first last:Int):Int:=
 spent (grants.filter fun g=>first≤g.time∧g.time≤last)

structure Windowed (interval limit:Int) (grants:List Grant):Prop where
 inside:∀ g∈grants,g.start≤g.time∧g.time<g.start+interval
 apart:∀ g∈grants,∀ g'∈grants,g.start<g'.start→ g.start+interval≤g'.start
 positive:∀ g∈grants,0<g.cost
 bounded:∀ start,spentIn grants start≤limit

variable {interval limit:Int} {grants:List Grant}

theorem spent_append (grants more:List Grant):spent (grants++more)=spent grants+spent more:=by
 simp[spent]

theorem spentIn_concat (grants:List Grant) (g:Grant) (st1:Int):
 spentIn (grants++[g]) st1=spentIn grants st1+if g.start=st1 then g.cost else 0:=by
 unfold spentIn
 rw[filter_append,spent_append]
 by_cases h:g.start=st1<;>simp[h,spent]

theorem spent_nonneg (h:∀ g∈grants,0<g.cost):0≤ spent grants:=by
 induction grants with
 | nil=>simp[spent]
 | cons g rest ih=>
  grind [spent,mem_cons_of_mem,mem_cons_self]

theorem spentIn_eq_zero {st1:Int} (h:∀ g∈grants,g.start≠st1):spentIn grants st1=0:=by
 have hnone:(grants.filter fun g=>g.start=st1)=[]:=by
  grind [filter_eq_nil_iff.mpr]
 rw[spentIn,hnone]
 rfl

theorem windowed_nil (hlimit:0≤limit):Windowed interval limit [] where
 inside:=by simp
 apart:=by simp
 positive:=by simp
 bounded:=by
  intro st1
  simpa[spentIn,spent] using hlimit

theorem Windowed.concat (h:Windowed interval limit grants) {g:Grant}
  (hins:g.start≤g.time∧g.time<g.start+interval)
  (hlast:∀ g'∈grants,g'.start=g.start∨g'.start+interval≤g.start)
  (hcost:0<g.cost) (hbou:spentIn grants g.start+g.cost≤limit):
  Windowed interval limit (grants++[g]) where
 inside:=by
  intro g' hg'
  rcases mem_append.mp hg' with hold | hnew
  · exact h.inside g' hold
  · grind
 apart:=by
  intro g₁ h₁ g₂ h₂ hlt
  simp only[mem_append,mem_singleton] at h₁ h₂
  obtain h₁ | rfl:=h₁<;>obtain h₂ | rfl:=h₂
  · exact h.apart g₁ h₁ g₂ h₂ hlt
  · have:=hlast g₁ h₁
    omega
  · have:=hlast g₂ h₂
    omega
  · omega
 positive:=by
  intro g' hg'
  rcases mem_append.mp hg' with hold | hnew
  · exact h.positive g' hold
  · grind
 bounded:=by
  intro st1
  rw[spentIn_concat]
  have hstrt:=h.bounded st1
  grind

theorem spent_filter_cons (p:Grant→Bool) (g:Grant) (rest:List Grant):
 spent ((g::rest).filter p)=(if p g=true then g.cost else 0)+spent (rest.filter p):=by
 by_cases hp:p g=true<;>simp[spent,hp]

theorem spent_le_spentIn_add (hposi:∀ g∈grants,0<g.cost) (p:Grant→Bool) (s s':Int)
 (h:∀ g∈grants,p g=true→ g.start=s∨g.start=s'):
 spent (grants.filter p)≤ spentIn grants s+spentIn grants s':=by
 induction grants with
 | nil=>simp[spentIn,spent]
 | cons g rest ih=>
  have hrest:=ih (fun g' hg'=>hposi g' (mem_cons_of_mem g hg'))
   (fun g' hg'=>h g' (mem_cons_of_mem g hg'))
  have hg:=hposi g mem_cons_self
  have hstrt:=h g mem_cons_self
  unfold spentIn at hrest ⊢
  rw[spent_filter_cons,spent_filter_cons,spent_filter_cons]
  grind

theorem Windowed.two_starts (h:Windowed interval limit grants) {head:Int} {g₁ g₂ g₃:Grant} (h₁:g₁∈grants)
 (h₂:g₂∈grants) (h₃:g₃∈grants) (hfst:head≤g₁.time) (hlast:g₃.time≤head+interval):
 ¬(g₁.start<g₂.start∧g₂.start<g₃.start):=by
 rintro ⟨hlt,hlt'⟩
 have hins:=h.inside g₁ h₁
 have hins':=h.inside g₃ h₃
 have hapa:=h.apart g₁ h₁ g₂ h₂ hlt
 have hapa':=h.apart g₂ h₂ g₃ h₃ hlt'
 omega

theorem Windowed.spentBetween_le (h:Windowed interval limit grants) (head:Int):
 spentBetween grants head (head+interval)≤2*limit:=by
 let p : Grant→Bool:=fun g=>head≤g.time∧g.time≤head+interval
 have htwo:∃ s s',∀ g∈grants,p g=true→ g.start=s∨g.start=s':=by
  by_cases hsame:∃ s,∀ g∈grants,p g=true→ g.start=s
  · obtain ⟨s,hs⟩:=hsame
    exact ⟨s,s,fun g hg hp=>.inl (hs g hg hp)⟩
  · -- two charges in different windows; a third one is in neither of them only if three windows meet
    have hsome:∃ a∈grants,p a=true:=by
     by_contra hnone
     apply hsame
     refine ⟨0,fun g hg hp=>?_⟩
     grind
    obtain ⟨a,ha,hpa⟩:=hsome
    have hoth:∃ b∈grants,p b=true∧b.start≠a.start:=by
     by_contra hnone
     apply hsame
     refine ⟨a.start,fun g hg hp=>?_⟩
     grind
    obtain ⟨b,hb,hpb,hne⟩:=hoth
    refine ⟨a.start,b.start,fun c hc hpc=>?_⟩
    simp only[p,decide_eq_true_eq] at hpa hpb hpc
    by_contra hthi
    obtain ⟨hca,hcb⟩:=not_or.mp hthi
    have habc:=h.two_starts ha hb hc hpa.1 hpc.2
    have hacb:=h.two_starts ha hc hb hpa.1 hpb.2
    have hbac:=h.two_starts hb ha hc hpb.1 hpc.2
    have hbca:=h.two_starts hb hc ha hpb.1 hpa.2
    have hcab:=h.two_starts hc ha hb hpc.1 hpb.2
    have hcba:=h.two_starts hc hb ha hpc.1 hpa.2
    omega
 obtain ⟨s,s',hs⟩:=htwo
 have hsum:=spent_le_spentIn_add h.positive p s s' hs
 have hfst:=h.bounded s
 have hsec:=h.bounded s'
 calc spentBetween grants head (head+interval)=spent (grants.filter p):=rfl
  _≤ spentIn grants s+spentIn grants s':=hsum
  _≤2*limit:=by omega

end BolterTrader.Foundations.FixedWindow
