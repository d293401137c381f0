import BolterTrader.Adapters.BybitFunding
import BolterTrader.Foundations.Months

/-! How far back a venue keeps funding payments (`fundingPaymentRetainedSince` and
`subtractCalendarMonths` in `factoryclient/clients.go`). -/
namespace BolterTrader.Adapters.FundingRetention
open Foundations.Rfc3339 BybitFunding

def nanosInDay:Int:=86400000000000

-- time.Date: a month outside the year is carried into the year, a day outside the month into the month
def dateDay (year month day:Int):Int:=
 let carried:=year+(month-1)/12
 daysBeforeYear carried+daysBeforeMonth (isLeap carried) (((month-1) % 12).toNat+1)+day-1

def dayOf (value:Int):Date:=dateOf (value/nanosInDay+epoch)
def timeOfDay (value:Int):Int:=value % nanosInDay

def subtractCalendarMonths (value months:Int):Int:=
 let date:=dayOf value
 let target:=dateOf (dateDay date.year (date.month-months) 1)
 let lastDay:=(dateOf (dateDay target.year (target.month+1) 0)).day
 let day:=if lastDay<date.day then lastDay else date.day
 (dateDay target.year target.month day-epoch)*nanosInDay+timeOfDay value

def fundingPaymentRetainedSince (start asOf months:Int):Bool:=
 months≤0 || start=zeroTime || subtractCalendarMonths asOf months≤ start

theorem dateDay_eq (year month day:Int):dateDay year month day=monthStart (12*year+month-1)+day-1:=by
 unfold dateDay monthStart
 grind

theorem subtractCalendarMonths_eq (value months:Int):
 let k:=(dayOf value).monthIndex-months
 subtractCalendarMonths value months =
  (monthStart k+min (dayOf value).day (monthLength k)-1-epoch)*nanosInDay+timeOfDay value:=by
 intro k
 have hpos:=monthLength_pos k
 have hfst:dateDay (dayOf value).year ((dayOf value).month-months) 1=monthStart k+1-1:=by
  rw[dateDay_eq]
  congr 3
  simp only[k,Date.monthIndex]
  omega
 have htar:=(dateOf_monthStart (n:=1) (k:=k) (by omega) (by omega)).1
 unfold subtractCalendarMonths
 dsimp only
 rw[hfst]
 generalize dateOf (monthStart k+1-1)=target at htar
 have hnext:12*target.year+((target.month : Int)+1)-1=k+1:=by
  rw[←htar,Date.monthIndex]
  omega
 have hlast:dateDay target.year (target.month+1) 0=monthStart k+(monthLength k:Int)-1:=by
  rw[dateDay_eq,hnext,monthStart_succ]
  omega
 have hlen:=(dateOf_monthStart (n:=monthLength k) (k:=k) (by omega) (by omega)).2
 have hday:∀ day,dateDay target.year target.month day=monthStart k+day-1:=fun day=>by
  rw[dateDay_eq,←htar,Date.monthIndex]
 grind

/-! ## When the boundary moves back -/

def Clamped (months earlier later:Int):Prop:=
 (dayOf earlier).monthIndex=(dayOf later).monthIndex∧(dayOf earlier).day<(dayOf later).day∧
  monthLength ((dayOf earlier).monthIndex-months)≤(dayOf earlier).day∧timeOfDay later<timeOfDay earlier

theorem subtractCalendarMonths_le_iff (months:Int) {earlier later:Int} (h:earlier≤later):
 subtractCalendarMonths earlier months≤ subtractCalendarMonths later months ↔ ¬Clamped months earlier later:=by
 obtain ⟨hday,hone,-⟩:=dateOf_bounds (earlier/nanosInDay+epoch)
 obtain ⟨hday',hone',hle⟩:=dateOf_bounds (later/nanosInDay+epoch)
 have hpar:=Int.mul_ediv_add_emod earlier nanosInDay
 have hpar':=Int.mul_ediv_add_emod later nanosInDay
 have hck:0≤timeOfDay earlier∧timeOfDay earlier<nanosInDay:=
  ⟨Int.emod_nonneg _ (by decide),Int.emod_lt_of_pos _ (by decide)⟩
 have hck':0≤timeOfDay later∧timeOfDay later<nanosInDay:=
  ⟨Int.emod_nonneg _ (by decide),Int.emod_lt_of_pos _ (by decide)⟩
 have hdays:earlier/nanosInDay≤later/nanosInDay:=Int.ediv_le_ediv (by decide) h
 rw[subtractCalendarMonths_eq,subtractCalendarMonths_eq,Clamped]
 change _=monthStart (dayOf earlier).monthIndex+(dayOf earlier).day-1 at hday
 change _=monthStart (dayOf later).monthIndex+(dayOf later).day-1 at hday'
 change 1≤(dayOf earlier).day at hone
 change 1≤(dayOf later).day at hone'
 change (dayOf later).day≤ monthLength (dayOf later).monthIndex at hle
 change nanosInDay*(earlier/nanosInDay)+timeOfDay earlier=earlier at hpar
 change nanosInDay*(later/nanosInDay)+timeOfDay later=later at hpar'
 unfold nanosInDay at *
 rcases lt_trichotomy (dayOf earlier).monthIndex (dayOf later).monthIndex with hlt | heq | hlt
 · have hnext:=monthStart_succ ((dayOf earlier).monthIndex-months)
   have hstrt:=monthStart_mono
    (show (dayOf earlier).monthIndex-months+1≤(dayOf later).monthIndex-months by omega)
   have hpos:=monthLength_pos ((dayOf later).monthIndex-months)
   omega
 · rw[heq] at hday ⊢
   omega
 · have hnext:=monthStart_succ (dayOf later).monthIndex
   have hstrt:=monthStart_mono (Int.add_one_le_iff.mpr hlt)
   omega

/-- When a window start that is retained was retained before. -/
theorem retention_monotone_iff (months:Int) {earlier later:Int} (h:earlier≤later):
 (subtractCalendarMonths earlier months≤ subtractCalendarMonths later months ↔ ¬Clamped months earlier later)∧
  ∀ start,(fundingPaymentRetainedSince start later months=true →
    fundingPaymentRetainedSince start earlier months=true) ↔
   ¬(Clamped months earlier later∧0< months∧start≠zeroTime∧
    subtractCalendarMonths later months≤ start∧start<subtractCalendarMonths earlier months):=by
 have hmon:=subtractCalendarMonths_le_iff months h
 refine ⟨hmon,fun start=>?_⟩
 simp only[fundingPaymentRetainedSince,Bool.or_eq_true,decide_eq_true_eq]
 grind

/-- From 30 May 2023, 23:00, to 31 May, 01:00, the boundary three months back moves from
28 February, 23:00, to 28 February, 01:00. -/
theorem boundary_moves_back :
 subtractCalendarMonths 1685487600000000000 3=1677625200000000000∧
  subtractCalendarMonths 1685494800000000000 3=1677546000000000000∧
  fundingPaymentRetainedSince 1677600000000000000 1685494800000000000 3=true∧
  fundingPaymentRetainedSince 1677600000000000000 1685487600000000000 3=false:=by
 decide

theorem boundary_kept_in_order :
 subtractCalendarMonths 1685494800000000000 3≤ subtractCalendarMonths 1685580000000000000 3:=
 ((retention_monotone_iff 3 (by decide)).1).mpr (by unfold Clamped; decide)

end BolterTrader.Adapters.FundingRetention
