import BolterTrader.Adapters.BybitFundingPages

/-! Which rows the slices of a window ask for, in milliseconds. -/
namespace BolterTrader.Adapters.BybitFunding
open Foundations Foundations.Fallible Foundations.Paging Exchange FundingPaymentCursor List

/-! ## Bounds in milliseconds -/

structure Dated (r:Request):Prop where
 start:Decimal.fitsInt64 (r.start/milli)=true
 finish:Decimal.fitsInt64 (r.finish/milli)=true

theorem optionalMillis_zeroTime:optionalMillis zeroTime=0:=if_pos rfl

theorem optionalMillis_toInt {ins:Int} (h:Decimal.fitsInt64 (ins/milli)=true) (hne:ins≠zeroTime):
 (optionalMillis ins).toInt=ins/milli:=by
 rw[Decimal.fitsInt64,decide_eq_true_eq] at h
 rw[optionalMillis,if_neg hne]
 exact Int64.toInt_ofInt_of_le (by omega) (by omega)

theorem optionalMillis_pos {ins:Int} (h:Decimal.fitsInt64 (ins/milli)=true):
 0<optionalMillis ins ↔ 0< ins/milli:=by
 by_cases hzero:ins=zeroTime
 · subst hzero
   exact iff_of_false (by rw[optionalMillis_zeroTime]; decide) (by decide)
 · rw[Int64.lt_iff_toInt_lt,optionalMillis_toInt h hzero]
   rfl

def bound (millis:Int):Option Int:=if 0< millis then some millis else none

theorem sent_optionalMillis {ins:Int} (h:Decimal.fitsInt64 (ins/milli)=true):
 sent (optionalMillis ins)=bound (ins/milli):=by
 by_cases hpos:0< ins/milli
 · have hne:ins≠zeroTime:=by
    rintro rfl
    exact absurd hpos (by decide)
   rw[sent,if_pos ((optionalMillis_pos h).mpr hpos),optionalMillis_toInt h hne,bound,if_pos hpos]
 · rw[sent,if_neg (mt (optionalMillis_pos h).mp hpos),bound,if_neg hpos]

section
variable {r:Request} {sliceStart:Int}

theorem continues_iff:Continues r sliceStart ↔ splitWindow r=true∧sliceStart+week<r.finish:=by
 refine and_congr_right fun hsp=>?_
 rw[slice,if_pos hsp]
 dsimp only
 omega

theorem lower_split (hsp:splitWindow r=true):lower r sliceStart=sent (optionalMillis sliceStart):=by
 rw[lower,slice_start hsp]

theorem upper_continues (h:Continues r sliceStart):
 upper r sliceStart=sent (optionalMillis (sliceStart+week-milli)):=by
 have hfin:=h.finish_eq
 obtain ⟨hsp,hbef⟩:=h
 rw[hfin] at hbef
 have hmin:min (sliceStart+week) r.finish=sliceStart+week:=min_eq_left hbef.le
 rw[upper,slice,if_pos hsp]
 grind

theorem upper_last (h:¬ Continues r sliceStart):upper r sliceStart=sent (optionalMillis r.finish):=by
 rw[upper,slice]
 cases hsp : splitWindow r with
 | false=>rfl
 | true=>
  grind [week,not_lt.mp,continues_iff.mpr]

theorem lower_whole (h:splitWindow r=false):lower r sliceStart=sent (optionalMillis r.start):=by
 rw[lower,slice,if_neg (by rw[h]; decide)]

theorem resumed_split (hsp:splitWindow r=true) (hfits:Decimal.fitsInt64 (sliceStart/milli)=true):
 resumed r sliceStart=if 0<sliceStart/milli then sliceStart/milli*milli else r.start:=by
 rw[resumed,resumeAt,hsp]
 dsimp only
 rw[if_pos rfl]
 by_cases hpos:0<sliceStart/milli
 · have hne:sliceStart≠zeroTime:=by
    rintro rfl
    exact absurd hpos (by decide)
   rw[if_pos ((optionalMillis_pos hfits).mpr hpos),if_pos hpos,optionalMillis_toInt hfits hne]
 · rw[if_neg (mt (optionalMillis_pos hfits).mp hpos),if_neg hpos]

theorem splitWindow_lt (h:splitWindow r=true):r.start+week<r.finish:=by
 simp only[splitWindow,Bool.and_eq_true,decide_eq_true_eq] at h
 omega

theorem Dated.inside (h:Dated r) {ins:Int} (hstrt:r.start≤ ins) (hfin:ins≤r.finish):
 Decimal.fitsInt64 (ins/milli)=true:=by
 have hlow:=h.start
 have hhigh:=h.finish
 rw[Decimal.fitsInt64,decide_eq_true_eq,milli] at *
 omega

end

/-! ## The requests that can be read to their end -/

def Sound (r:Request):Prop:=
 splitWindow r=false∨
  2≤(r.start+week)/milli∧(r.start % milli=0∨r.start/milli≤0)∧r.start % milli≤(r.start-r.finish) % week

instance (r:Request):Decidable (Sound r):=inferInstanceAs (Decidable (_∨_))

def SliceStart (r:Request) (sliceStart:Int):Prop:=
 ∃ k:ℕ,sliceStart=r.start+k*week∨0<k∧sliceStart=(r.start+k*week)/milli*milli

theorem millis_mul_add (ins:Int) (n:ℕ):
 (ins+n*week)/milli*milli=ins/milli*milli+n*week:=by
 simp only[milli,week]
 omega

section
variable {r:Request}

theorem truncated_lt_finish (hgap:r.start % milli≤(r.start-r.finish) % week) (k:ℕ):
 (r.start+k*week)/milli*milli<r.finish ↔ r.start+k*week<r.finish:=by
 simp only[milli,week] at *
 omega

theorem optionalMillis_congr {ins other:Int} (h:ins/milli=other/milli) (hpos:0< ins/milli):
 optionalMillis ins=optionalMillis other:=by
 have hzero:¬ 0<zeroTime/milli:=by decide
 have hne:ins≠zeroTime:=fun heq=>hzero (heq▸hpos)
 have hoth:other≠zeroTime:=fun heq=>hzero (heq▸h▸hpos)
 rw[optionalMillis,optionalMillis,if_neg hne,if_neg hoth,h]

theorem alike_truncated {sliceStart:Int} (hsp:splitWindow r=true) (hpos:0<sliceStart/milli)
 (hsame:∀ n:ℕ,sliceStart/milli*milli+n*week<r.finish ↔ sliceStart+n*week<r.finish):
 Alike r sliceStart (sliceStart/milli*milli):=by
 intro n
 have hstrt:(sliceStart+n*week)/milli=(sliceStart/milli*milli+n*week)/milli∧
   0<(sliceStart+n*week)/milli:=by
  simp only[milli,week] at *
  omega
 have hend:(sliceStart+n*week+week-milli)/milli=(sliceStart/milli*milli+n*week+week-milli)/milli∧
   0<(sliceStart+n*week+week-milli)/milli:=by
  simp only[milli,week] at *
  omega
 have hcont:Continues r (sliceStart+n*week) ↔ Continues r (sliceStart/milli*milli+n*week):=by
  have hnext:=hsame (n+1)
  rw[continues_iff,continues_iff]
  grind
 refine ⟨?_,?_,hcont⟩
 · grind [lower_split,optionalMillis_congr]
 · by_cases hgoes:Continues r (sliceStart+n*week)
   all_goals grind [upper_continues,optionalMillis_congr,upper_last]

theorem resumes_whole (h:splitWindow r=false):Resumes r fun _=>True:=by
 have hnot (sliceStart:Int):¬ Continues r sliceStart:=fun hgoes=>by
  rw[hgoes.1] at h
  cases h
 refine ⟨fun _ _ _=>trivial,?_,fun _ _ _=>trivial,?_⟩
 · intro st1 _ _ hsp
   rw[h] at hsp
   cases hsp
 · intro st1 _ _ n
   rw[lower_whole h,lower_whole h,upper_last (hnot _),upper_last (hnot _)]
   grind

theorem resumed_sliceStart (hdt:Dated r) (hsp:splitWindow r=true) (hsec:2≤(r.start+week)/milli)
 (hwh:r.start % milli=0∨r.start/milli≤0) {sliceStart:Int} (h:SliceStart r sliceStart)
 (hwin:InWindow r sliceStart):
 resumed r sliceStart=sliceStart∨
  ∃ k:ℕ,0<k∧sliceStart=r.start+k*week∧resumed r sliceStart=sliceStart/milli*milli:=by
 obtain ⟨hstrt,hfin⟩:=hwin hsp
 rw[resumed_split hsp (hdt.inside hstrt hfin.le)]
 obtain ⟨k,hexa | ⟨hk,htru⟩⟩:=h
 · by_cases hpos:0<sliceStart/milli
   · rw[if_pos hpos]
     cases k with
     | zero=>
      grind [milli,week]
     | succ k=>exact .inr ⟨k+1,k.succ_pos,hexa,rfl⟩
   · grind [milli,week]
 · left
   simp only[milli,week] at *
   omega

theorem resumes_split (hdt:Dated r) (hsp:splitWindow r=true) (hsec:2≤(r.start+week)/milli)
 (hwh:r.start % milli=0∨r.start/milli≤0) (hgap:r.start % milli≤(r.start-r.finish) % week):
 Resumes r (SliceStart r):=by
 have hcas {sliceStart:Int} (hgood:SliceStart r sliceStart) (hwin:InWindow r sliceStart):=
  resumed_sliceStart hdt hsp hsec hwh hgood hwin
 refine ⟨?_,?_,?_,?_⟩
 · rintro st1 ⟨k,hk⟩ hcont
   rw[hcont.finish_eq]
   refine ⟨k+1,?_⟩
   grind [milli,week]
 · intro st1 hgood hwin _
   obtain ⟨hstrt,hfin⟩:=hwin hsp
   grind [milli,week]
 · intro st1 hgood hwin
   obtain hsame | ⟨k,hk,heq,htru⟩:=hcas hgood hwin
   · rw[hsame]
     exact hgood
   · rw[htru,heq]
     exact ⟨k,.inr ⟨hk,rfl⟩⟩
 · intro st1 hgood hwin
   obtain hsame | ⟨k,hk,heq,htru⟩:=hcas hgood hwin
   · rw[hsame]
     exact Alike.refl _
   · rw[htru]
     refine alike_truncated hsp ?_ fun n=>?_
     · simp only[milli,week] at *
       omega
     · have hsum:r.start+k*week+n*week=r.start+(k+n : ℕ)*week:=by
        push_cast
        ring
       rw[heq,←millis_mul_add,hsum]
       exact truncated_lt_finish hgap (k+n)

end

/-! ## What the slices cover -/

section
variable {hashes:Hashes} {client:Client} {p:Prepared} {r:Request}

theorem paid_time {row:Row} {pym:Settlement} (h:paid hashes client p r row=some pym):
 0<row.millis∧(r.start=zeroTime∨r.start≤row.millis*milli)∧
  (r.finish=zeroTime∨row.millis*milli<r.finish):=by
 rw[paid,Option.filter_eq_some_iff] at h
 obtain ⟨hread,hwit⟩:=h
 cases hrow : readRow hashes client p r.instrument row with
 | error=>
  rw[hrow] at hread
  cases hread
 | ok=>
  rw[hrow] at hread
  cases hread
  obtain ⟨htime,hpos⟩:=readRow_time hrow
  rw[htime] at hwit
  simp only[withinHalfOpen,Bool.and_eq_true,Bool.or_eq_true,decide_eq_true_eq] at hwit
  exact ⟨hpos,hwit.1,hwit.2⟩

theorem filterMap_paid_congr {f g:Row→Bool} (rows:List Row)
 (h:∀ row pym,paid hashes client p r row=some pym→ f row=g row):
 (rows.filter f).filterMap (paid hashes client p r)=(rows.filter g).filterMap (paid hashes client p r):=by
 rw[filterMap_filter,filterMap_filter]
 refine filterMap_congr fun row _=>?_
 cases hpaid : paid hashes client p r row with
 | none=>rw[ite_self,ite_self]
 | some pym=>rw[h row pym hpaid]

theorem segment_paid (v:Venue hashes client p r.instrument) (sliceStart:Int) {g:Row→Bool}
 (h:∀ row pym,paid hashes client p r row=some pym →
  row.between (lower r sliceStart) (upper r sliceStart)=g row):
 ((segment v sliceStart).filterMap (paid hashes client p r)).Perm
  ((v.rows.filter g).filterMap (paid hashes client p r)):=by
 rw[←filterMap_paid_congr v.rows h]
 exact (v.listing_perm _ _).filterMap _

theorem bound_le {mll time:Int} (htime:0<time):(bound mll).all (· ≤ time)=decide (mll≤time):=by
 grind [bound,decide_eq_true]

theorem le_bound {mll time:Int} (hmil:0< mll):(bound mll).all (time ≤ ·)=decide (time≤ mll):=by
 rw[bound,if_pos hmil]
 rfl

variable {sliceStart:Int}

theorem lower_bound (hdt:Dated r) (hsp:splitWindow r=true) (hstrt:r.start≤ sliceStart)
 (hfin:sliceStart<r.finish):lower r sliceStart=bound (sliceStart/milli):=by
 rw[lower_split hsp,sent_optionalMillis (hdt.inside hstrt hfin.le)]

theorem upper_bound_continues (hdt:Dated r) (hstrt:r.start≤ sliceStart) (hcont:Continues r sliceStart):
 upper r sliceStart=bound ((sliceStart+week)/milli-1):=by
 have hfin:=(continues_iff.mp hcont).2
 have hmil:(sliceStart+week-milli)/milli=(sliceStart+week)/milli-1:=by
  simp only[milli,week]
  omega
 rw[upper_continues hcont,sent_optionalMillis (hdt.inside ?_ ?_),hmil]
 all_goals
  simp only[milli,week] at *
  omega

theorem upper_bound_last (hdt:Dated r) (hlast:¬ Continues r sliceStart):
 upper r sliceStart=bound (r.finish/milli):=by
 rw[upper_last hlast,sent_optionalMillis hdt.finish]

theorem paid_le_finish {row:Row} {pym:Settlement}
 (h:paid hashes client p r row=some pym):(bound (r.finish/milli)).all (row.millis ≤ ·)=true:=by
 obtain ⟨-,-,hbef⟩:=paid_time h
 by_cases hpos:0<r.finish/milli
 · rw[le_bound hpos,decide_eq_true_eq]
   simp only[zeroTime,milli] at *
   omega
 · rw[bound,if_neg hpos]
   rfl

theorem paid_split (rows:List Row) {head lat:Int} (h:head≤lat):
 ((rows.filter fun row=>row.millis<lat && head≤row.millis).filterMap (paid hashes client p r) ++
  (rows.filter fun row=>lat≤row.millis).filterMap (paid hashes client p r)).Perm
  ((rows.filter fun row=>head≤row.millis).filterMap (paid hashes client p r)):=by
 have hpar:=(filter_append_perm (fun row=>decide (row.millis<lat))
  (rows.filter fun row=>head≤row.millis)).filterMap (paid hashes client p r)
 rw[filterMap_append,filter_filter,filter_filter] at hpar
 have hrest:(rows.filter fun row=>decide (lat≤row.millis)) =
   rows.filter fun row=>!decide (row.millis<lat) && decide (head≤row.millis):=by
  refine filter_congr fun row _=>?_
  rw[←decide_not,←Bool.decide_and]
  exact decide_eq_decide.mpr (by omega)
 rw[hrest]
 exact hpar

theorem segment_continues (v:Venue hashes client p r.instrument) (hdt:Dated r)
 (hsec:2≤(sliceStart+week)/milli) (hstrt:r.start≤ sliceStart) (hcont:Continues r sliceStart):
 ((segment v sliceStart).filterMap (paid hashes client p r)).Perm
  ((v.rows.filter fun row=>row.millis<(sliceStart+week)/milli && sliceStart/milli≤row.millis).filterMap
   (paid hashes client p r)):=by
 obtain ⟨hsp,hbef⟩:=continues_iff.mp hcont
 have hweek:0<week:=by decide
 have hlow:=lower_bound hdt hsp hstrt (by omega)
 have hupp:=upper_bound_continues hdt hstrt hcont
 refine segment_paid v sliceStart fun row pym hpaid=>?_
 rw[Row.between,hlow,hupp,bound_le (paid_time hpaid).1,le_bound (by omega),Bool.and_comm]
 grind

theorem segment_last (v:Venue hashes client p r.instrument) (hdt:Dated r) (hsp:splitWindow r=true)
 (hstrt:r.start≤ sliceStart) (hfin:sliceStart<r.finish) (hlast:¬ Continues r sliceStart):
 ((segment v sliceStart).filterMap (paid hashes client p r)).Perm
  ((v.rows.filter fun row=>sliceStart/milli≤row.millis).filterMap (paid hashes client p r)):=by
 have hlow:=lower_bound hdt hsp hstrt hfin
 refine segment_paid v sliceStart fun row pym hpaid=>?_
 rw[Row.between,hlow,upper_bound_last hdt hlast,bound_le (paid_time hpaid).1,paid_le_finish hpaid,Bool.and_true]

theorem raw_perm (v:Venue hashes client p r.instrument) (hdt:Dated r) (hsp:splitWindow r=true)
 (hsec:2≤(sliceStart+week)/milli) (hstrt:r.start≤ sliceStart) (hfin:sliceStart<r.finish):
 ((raw v sliceStart).filterMap (paid hashes client p r)).Perm
  ((v.rows.filter fun row=>sliceStart/milli≤row.millis).filterMap (paid hashes client p r)):=by
 induction hn : (r.finish-sliceStart).toNat using Nat.strongRecOn generalizing sliceStart with
 | ind n ih=>
  rw[raw,filterMap_append]
  by_cases hcont:Continues r sliceStart
  · have hless:=hcont.remaining_lt
    rw[hcont.finish_eq] at hless
    have hnext:2≤(sliceStart+week+week)/milli∧r.start≤ sliceStart+week∧
      sliceStart/milli≤(sliceStart+week)/milli:=by
     simp only[milli,week] at *
     omega
    have hseg:=segment_continues v hdt hsec hstrt hcont
    have hrest:=ih _ (hn▸hless) hnext.1 hnext.2.1 (continues_iff.mp hcont).2 rfl
    rw[dif_pos hcont,hcont.finish_eq]
    exact (hseg.append hrest).trans (paid_split v.rows hnext.2.2)
  · rw[dif_neg hcont,filterMap_nil,append_nil]
    exact segment_last v hdt hsp hstrt hfin hcont

theorem start_le_paid {row:Row} {pym:Settlement} (h:paid hashes client p r row=some pym):
 r.start/milli≤row.millis:=by
 obtain ⟨hpos,hstrt,-⟩:=paid_time h
 simp only[zeroTime,milli] at *
 omega

theorem raw_whole (v:Venue hashes client p r.instrument) (hdt:Dated r) (h:splitWindow r=false):
 ((raw v r.start).filterMap (paid hashes client p r)).Perm (v.rows.filterMap (paid hashes client p r)):=by
 have hnot:¬ Continues r r.start:=fun hgoes=>by
  rw[hgoes.1] at h
  cases h
 have hall:v.rows.filter (fun _=>true)=v.rows:=filter_true v.rows
 rw[raw,dif_neg hnot,append_nil,←hall]
 refine segment_paid v r.start fun row pym hpaid=>?_
 rw[Row.between,lower_whole h,sent_optionalMillis hdt.start,upper_bound_last hdt hnot,
  bound_le (paid_time hpaid).1,paid_le_finish hpaid,Bool.and_true,decide_eq_true_eq]
 exact start_le_paid hpaid

theorem raw_split (v:Venue hashes client p r.instrument) (hdt:Dated r) (hsp:splitWindow r=true)
 (hsec:2≤(r.start+week)/milli):
 ((raw v r.start).filterMap (paid hashes client p r)).Perm (v.rows.filterMap (paid hashes client p r)):=by
 have hbef:=splitWindow_lt hsp
 have hweek:0<week:=by decide
 have hall:v.rows.filter (fun _=>true)=v.rows:=filter_true v.rows
 have hcov:=raw_perm v hdt hsp hsec (le_refl r.start) (by omega)
 rw[←hall,←filterMap_paid_congr v.rows fun row pym hpaid=>decide_eq_true (start_le_paid hpaid)]
 exact hcov

def Complete (v:Venue hashes client p r.instrument):Prop:=
 ∀ clock:ℕ→Int,∃ n payments,follow (call v clock) n (0,"")=.ok (some payments)∧
  payments.Perm (v.rows.filterMap (paid hashes client p r))

theorem complete_of_sound (hp:prepare client r=.ok p) (hdt:Dated r) (hlimit:0<p.limit.toInt) (h:Sound r)
 (v:Venue hashes client p r.instrument):Complete v:=by
 intro clk
 cases hsp : splitWindow r with
 | false=>
  have hwin:InWindow r r.start:=fun hyes=>by
   rw[hsp] at hyes
   cases hyes
  obtain ⟨n,hfol⟩:=follow_raw hp hlimit (resumes_whole hsp) trivial hwin clk
  exact ⟨n,_,hfol,raw_whole v hdt hsp⟩
 | true=>
  obtain hwh | ⟨hsec,hwh,hgap⟩:=h
  · rw[hsp] at hwh
    cases hwh
  have hbef:=splitWindow_lt hsp
  have hweek:0<week:=by decide
  have hwin:InWindow r r.start:=fun _=>⟨le_refl _,by omega⟩
  have hgood:SliceStart r r.start:=⟨0,.inl (by simp)⟩
  obtain ⟨n,hfol⟩:=follow_raw hp hlimit (resumes_split hdt hsp hsec hwh hgap) hgood hwin clk
  exact ⟨n,_,hfol,raw_split v hdt hsp hsec⟩

end

end BolterTrader.Adapters.BybitFunding
