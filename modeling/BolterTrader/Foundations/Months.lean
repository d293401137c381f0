import BolterTrader.Foundations.Rfc3339

/-! The months of the calendar, counted from January of the year zero: where each one
begins, how long it is, and that a day lies in exactly one of them. -/
namespace BolterTrader.Foundations.Rfc3339

def monthStart (k:Int):Int:=daysBeforeYear (k/12)+daysBeforeMonth (isLeap (k/12)) ((k % 12).toNat+1)
def monthLength (k:Int):ℕ:=daysIn (isLeap (k/12)) ((k % 12).toNat+1)
def Date.monthIndex (date:Date):Int:=12*date.year+date.month-1

theorem daysBeforeMonth_succ:∀ leap:Bool,∀ month<12,
 daysBeforeMonth leap (month+1)+daysIn leap (month+1) =
  if month=11 then if leap then 366 else 365 else daysBeforeMonth leap (month+1+1):=by
 decide

theorem monthStart_succ (k:Int):monthStart (k+1)=monthStart k+monthLength k:=by
 have htab:=daysBeforeMonth_succ (isLeap (k/12)) (k % 12).toNat (by omega)
 unfold monthStart monthLength
 by_cases hlast:(k % 12).toNat=11
 · rw[if_pos hlast] at htab
   have hyear:(k+1)/12=k/12+1:=by omega
   grind [daysBeforeMonth,daysBeforeYear_succ]
 all_goals grind

theorem monthLength_pos (k:Int):1≤ monthLength k:=by
 have htab:∀ leap:Bool,∀ month<12,1≤daysIn leap (month+1):=by decide
 exact htab _ _ (by omega)

theorem monthStart_mono {i k:Int} (h:i≤k):monthStart i≤ monthStart k:=by
 refine (strictMono_int_of_lt_succ ?_).monotone h
 intro k
 have:=monthLength_pos k
 rw[monthStart_succ]
 omega

theorem dateOf_bounds (day:Int):
 day=monthStart (dateOf day).monthIndex+(dateOf day).day-1∧1≤(dateOf day).day∧
  (dateOf day).day≤ monthLength (dateOf day).monthIndex:=by
 obtain ⟨hn,hone,htwe,hday,hlen⟩:=dateOf_spec day
 have hyear:(dateOf day).monthIndex/12=(dateOf day).year:=by
  unfold Date.monthIndex
  omega
 have hmon:((dateOf day).monthIndex % 12).toNat+1=(dateOf day).month:=by
  unfold Date.monthIndex
  omega
 unfold monthStart monthLength
 rw[hyear,hmon]
 exact ⟨hn.symm,hday,hlen⟩

theorem dateOf_monthStart {k n:Int} (hn:1≤n) (hlen:n≤ monthLength k):
 (dateOf (monthStart k+n-1)).monthIndex=k∧(dateOf (monthStart k+n-1)).day=n:=by
 obtain ⟨hday,hone,hle⟩:=dateOf_bounds (monthStart k+n-1)
 generalize (dateOf (monthStart k+n-1)).monthIndex=index at *
 have hnext:=monthStart_succ k
 have hnext':=monthStart_succ index
 have hind:index=k:=by
  rcases lt_trichotomy index k with hlt | heq | hlt
  · have:=monthStart_mono (Int.add_one_le_iff.mpr hlt)
    omega
  · exact heq
  · have:=monthStart_mono (Int.add_one_le_iff.mpr hlt)
    omega
 subst hind
 omega

end BolterTrader.Foundations.Rfc3339
