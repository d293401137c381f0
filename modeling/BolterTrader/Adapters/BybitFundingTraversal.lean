import BolterTrader.Adapters.BybitFundingSlices

/-! The requests that no faithful venue can fail, exactly: for every other request there is a
venue whose pages do not end, come twice, or lead to a cursor that is refused. -/
namespace BolterTrader.Adapters.BybitFunding
open Foundations Foundations.Fallible Foundations.Paging Exchange FundingPaymentCursor List

/-! ## Accepted requests -/

section
variable {hashes:Hashes} {client:Client} {p:Prepared} {r:Request}

theorem prepare_limit (h:prepare client r=.ok p):0<p.limit.toInt:=by
 unfold prepare at h
 replace h:=past (past h)
 obtain ⟨names,-,h⟩:=bind_eq_ok h
 replace h:=past (past (past h))
 cases h
 show 0<(if r.limit≤0 then (50:Int64) else r.limit).toInt
 split
 next=>decide
 grind [Int64.le_iff_toInt_le,not_le.mp]

theorem prepare_native (h:prepare client r=.ok p):p.native=""∨GoText.trimSpace p.native≠"" := by
 unfold prepare at h
 replace h:=past (past h)
 obtain ⟨names,hnames,h⟩:=bind_eq_ok h
 replace h:=past (past (past h))
 cases h
 cases hins : r.instrument with
 | none=>
  rw[hins] at hnames
  cases hnames
  exact .inl rfl
 | some instrument=>
  rw[hins,instrumentNames] at hnames
  obtain ⟨native,hnat,hnames⟩:=bind_eq_ok hnames
  cases hnames
  unfold BybitBitget.symbols at hnat
  obtain ⟨_,hval,hnat⟩:=bind_eq_ok hnat
  obtain ⟨-,-,hnat⟩:=bind_eq_ok hnat
  cases hnat
  unfold BybitBitget.validateBybitBitgetInstrument at hval
  replace hval:=past (past (past hval))
  obtain ⟨_,hpre,hval⟩:=bind_eq_ok hval
  have htri:=not_not.mp (refuse_eq_ok hval)
  grind

/-! ## A venue with payments at one time -/

def sampleRow (p:Prepared) (time:ℕ) (id:String):Row where
 id
 symbol:=if p.native="" then "BTCUSDT" else p.native
 transactionTime:=toString (time:Int)
 currency:=p.asset
 funding:="0"

theorem sampleRow_millis {time:ℕ} (hfits:Decimal.fitsInt64 time=true) (id:String):
 (sampleRow p time id).millis=time:=by
 rw[Row.millis,sampleRow,Decimal.parseInt64?_toString hfits]
 rfl

theorem sampleRow_reads (hp:prepare client r=.ok p) {time:ℕ} (hpos:0<time)
 (hfits:Decimal.fitsInt64 time=true) {id:String} (hid:GoText.trimSpace id≠""):
 ∃ payment,readRow hashes client p r.instrument (sampleRow p time id)=.ok payment:=by
 have htype:¬ (sampleRow p time id).type≠"SETTLEMENT" := not_not.mpr rfl
 have hcat:¬ ((sampleRow p time id).category≠""∧(sampleRow p time id).category≠client.category):=
  fun h=>h.1 rfl
 have hm:¬ (p.native≠""∧(sampleRow p time id).symbol≠p.native):=by
  rintro ⟨hnam,hoth⟩
  exact hoth (if_neg hnam)
 have hcur:¬ (sampleRow p time id).currency≠p.asset:=not_not.mpr rfl
 have hid':¬ GoText.trimSpace (sampleRow p time id).id="" := hid
 have hsym:¬ GoText.trimSpace (sampleRow p time id).symbol="" := by
  rw[sampleRow]
  dsimp only
  split
  · decide
  · exact (prepare_native hp).resolve_left ‹_›
 have hzero:∃ amount,BybitBitget.parseRequiredDecimal client.toClientMeta operation "funding payment amount" "0" = .ok amount:=⟨_,rfl⟩
 obtain ⟨amount,hzero⟩:=hzero
 have hamount:BybitBitget.parseRequiredDecimal client.toClientMeta operation "funding payment amount" (sampleRow p time id).funding=.ok amount:=hzero
 have htime:BybitBitget.parseRequiredMilli client.toClientMeta operation "transaction timestamp" (sampleRow p time id).transactionTime=_:=
  BybitBitget.parseRequiredMilli_toString hpos hfits
 unfold readRow settlement
 rw[refuse_bind htype,refuse_bind hcat,refuse_bind hm,refuse_bind hcur,refuse_bind hid',
  refuse_bind hsym,hamount,htime]
 exact ⟨_,rfl⟩

structure Sample where
 time:ℕ
 ids:List String
 mark:Option Int→String
 time_pos:0<time
 time_fits:Decimal.fitsInt64 time=true
 ids_present:∀ id∈ids,GoText.trimSpace id≠""
 ids_length:ids.length≤2
 mark_ne:∀ endTime,mark endTime≠""∧mark endTime≠"0"

def Sample.rows (p:Prepared) (s:Sample):List Row:=s.ids.map (sampleRow p s.time)

def Sample.venue (s:Sample) (hashes:Hashes) (hp:prepare client r=.ok p):Venue hashes client p r.instrument where
 rows:=s.rows p
 reads:=by
  intro row hrow
  obtain ⟨id,hid,rfl⟩:=List.mem_map.mp hrow
  exact sampleRow_reads hp s.time_pos s.time_fits (s.ids_present id hid)
 listing startTime endTime:=(s.rows p).filter fun row=>row.between startTime endTime
 listing_perm _ _:=.refl _
 size _ _ _ limit:=min 1 limit
 size_pos _ _ _ limit hlimit:=by omega
 size_le _ _ _ limit:=by omega
 mark _ endTime place:=if place=0 then "0" else s.mark endTime
 mark_ne _ endTime place:=by
  split
  · decide
  · exact (s.mark_ne endTime).1
 place _ endTime cursor:=
  if cursor=""∨cursor="0" then some 0 else if cursor=s.mark endTime then some 1 else none
 place_empty _ _:=if_pos (.inl rfl)
 place_mark startTime endTime place hplace:=by
  have hlength:((s.rows p).filter fun row=>row.between startTime endTime).length≤2:=
   (List.length_filter_le _ _).trans (by rw[Sample.rows,List.length_map]; exact s.ids_length)
  by_cases hzero:place=0
  · rw[if_pos hzero,if_pos (.inr rfl),hzero]
  · have hone:place=1:=by omega
    obtain ⟨hempty,hother⟩:=s.mark_ne endTime
    rw[if_neg hzero,if_neg (by simp[hempty,hother]),if_pos rfl,hone]
 unknownCursor:=refused client "cursor is unknown"

variable {s:Sample} {hp:prepare client r=.ok p} {sliceStart:Int}

theorem Sample.between_eq {row:Row} (hrow:row∈s.rows p) (startTime endTime:Option Int):
 row.between startTime endTime=(startTime.all (· ≤ (s.time : Int)) && endTime.all ((s.time : Int) ≤ ·)):=by
 obtain ⟨id,-,rfl⟩:=mem_map.mp hrow
 rw[Row.between,sampleRow_millis s.time_fits]

def Sample.In (s:Sample) (r:Request) (sliceStart:Int):Prop:=
 (lower r sliceStart).all (· ≤ (s.time : Int))=true∧(upper r sliceStart).all ((s.time : Int) ≤ ·)=true

theorem Sample.segment_eq (h:s.In r sliceStart):segment (s.venue hashes hp) sliceStart=s.rows p:=by
 refine filter_eq_self.mpr fun row hrow=>?_
 rw[Sample.between_eq hrow,h.1,h.2]
 rfl

theorem Sample.in_of_bounds {first last:Int} (hlow:lower r sliceStart=bound first)
 (hupp:upper r sliceStart=bound last) (hfst:first≤ s.time) (hlast:(s.time : Int)≤last):
 s.In r sliceStart:=by
 have hpos:=s.time_pos
 constructor
 · grind [bound_le]
 · grind [le_bound]

theorem Sample.segment_nil (h:(upper r sliceStart).all ((s.time : Int) ≤ ·)=false):
 segment (s.venue hashes hp) sliceStart=[]:=by
 refine filter_eq_nil_iff.mpr fun row hrow=>?_
 rw[Sample.between_eq hrow,h,Bool.and_false]
 decide

theorem Sample.place_foreign {endTime other:Option Int} (h:s.mark other≠s.mark endTime) (startTime:Option Int):
 (s.venue hashes hp).place startTime endTime (s.mark other)=none:=by
 obtain ⟨hnil,hzero⟩:=s.mark_ne other
 exact (if_neg (by simp[hnil,hzero])).trans (if_neg h)

/-! ## Calls -/

theorem room_nil (hp:prepare client r=.ok p):(([]:List FundingPayment).length : Int)<p.limit.toInt:=by
 simpa using prepare_limit hp

variable {v:Venue hashes client p r.instrument} {seen:Int64} {now:Int} {items:List FundingPayment}

theorem loop_empty (hseg:segment v sliceStart=[]) (hcont:Continues r sliceStart)
 (hwin:InWindow r sliceStart) (hroom:(items.length : Int)<p.limit.toInt):
 loop hashes client v.answer p r seen now sliceStart "" items =
  loop hashes client v.answer p r seen now (sliceStart+week) "" items:=by
 have hrest:rest v now sliceStart 0=[]:=by rw[rest,hseg]; rfl
 obtain ⟨limit,-,hstep⟩:=loop_step seen now hwin hroom (v.place_empty _ _)
 cases hstep with
 | mark hmore=>
  grind
 | full _ hfull _=>
  grind
 | next _ _ _ hres=>rwa[hrest,append_nil,hcont.finish_eq] at hres
 | last _ hlast=>exact absurd hcont hlast

theorem loop_outside (hsp:splitWindow r=true) (hout:sliceStart<r.start) (venueCursor:String):
 loop hashes client v.answer p r seen now sliceStart venueCursor items =
  .error (.native (invalid client "cursor slice is outside funding payment window")):=by
 have hgua:splitWindow r=true∧(sliceStart<r.start∨¬ sliceStart<r.finish):=⟨hsp,.inl hout⟩
 rw[loop,visit,refuse,if_pos hgua]
 rfl

theorem loop_unknown {venueCursor:String} (hwin:InWindow r sliceStart)
 (hroom:(items.length : Int)<p.limit.toInt)
 (hplace:v.place (lower r sliceStart) (upper r sliceStart) venueCursor=none):
 loop hashes client v.answer p r seen now sliceStart venueCursor items=.error (.native v.unknownCursor):=by
 have hgua:¬ (splitWindow r=true∧(sliceStart<r.start∨¬ sliceStart<r.finish)):=by
  rintro ⟨hsp,hout⟩
  obtain ⟨hstrt,hfin⟩:=hwin hsp
  omega
 have hans (limit:ℕ):
   v.answer (logQuery client p r sliceStart venueCursor limit)=.error v.unknownCursor:=by
  unfold Venue.answer
  split
  next=>rfl
  next place hsome=>exact absurd (hplace.symm.trans hsome) (by simp)
 rw[loop,visit,refuse_bind hgua]
 dsimp only
 rw[if_neg (by omega),hans]
 rfl

theorem Sample.loop_two (hids:s.ids.length=2) (hin:s.In r sliceStart) (hwin:InWindow r sliceStart)
 (hroom:(items.length : Int)<p.limit.toInt):
 ∃ taken,loop hashes client (s.venue hashes hp).answer p r seen now sliceStart "" items =
  .ok (taken,some (nextEnvelope hashes p r seen taken (s.mark (upper r sliceStart))
   (if splitWindow r then some sliceStart else none))):=by
 have hlen:(segment (s.venue hashes hp) sliceStart).length=2:=by
  rw[Sample.segment_eq hin,Sample.rows,length_map,hids]
 obtain ⟨limit,hlimit,hstep⟩:=loop_step seen now hwin hroom ((s.venue hashes hp).place_empty _ _)
 have hsize:(s.venue hashes hp).size (lower r sliceStart) (upper r sliceStart) 0 limit=1:=by
  show min 1 limit=1
  omega
 rw[hsize] at hstep
 cases hstep with
 | mark _ hres=>exact ⟨_,hres⟩
 | full hlast _ _=>omega
 | next hlast _ _ _=>omega
 | last hlast _ _=>omega

theorem call_marked {cursor mark:String} {first:Int} {venueCursor:String} (hp:prepare client r=.ok p)
 (hst:Stands hashes client p r cursor first venueCursor seen) (clock:ℕ→Int) (i:ℕ)
 (hloop:∃ taken,loop hashes client v.answer p r seen (clock i) first venueCursor [] =
  .ok (taken,some (nextEnvelope hashes p r seen taken mark (if splitWindow r then some sliceStart else none)))):
 ∃ items next later,call v clock (i,cursor)=.ok (items,some (i+1,next))∧
  Stands hashes client p r next (resumed r sliceStart) mark later:=by
 obtain ⟨taken,hloop⟩:=hloop
 refine ⟨taken.map (·.toSettlement),_,_,?_,stands_next seen taken mark sliceStart⟩
 rw[call_eq hp hst,hloop]
 rfl

/-! ## Requests with a venue that fails them -/

def twoAt (time:ℕ) (hpos:0<time) (hfits:Decimal.fitsInt64 time=true) (mark:Option Int→String)
  (hmark:∀ endTime,mark endTime≠""∧mark endTime≠"0"):Sample where
 time
 ids:=["1","2"]
 mark
 time_pos:=hpos
 time_fits:=hfits
 ids_present:=by decide
 ids_length:=by decide
 mark_ne:=hmark

theorem bound_one (millis:Int):(bound millis).all ((1:Int) ≤ ·)=true:=by
 grind [bound,decide_eq_true]

theorem upper_one (hdt:Dated r) {sliceStart:Int} (hstrt:r.start≤ sliceStart):
 (upper r sliceStart).all ((1:Int) ≤ ·)=true:=by
 by_cases hcont:Continues r sliceStart
 all_goals grind [upper_bound_continues,bound_one,upper_bound_last]

theorem Sample.loop_second (hids:s.ids.length=2) (hin:s.In r r.start) (hin':s.In r (r.start+week))
 (hsp:splitWindow r=true):
 ∃ taken mark,loop hashes client (s.venue hashes hp).answer p r seen now r.start (s.mark (upper r r.start)) [] =
   .ok (taken,some (nextEnvelope hashes p r seen taken mark (if splitWindow r then some (r.start+week) else none)))∧
  (mark=""∨mark=s.mark (upper r (r.start+week))):=by
 have hbef:=splitWindow_lt hsp
 have hweek:0<week:=by decide
 have hcont:Continues r r.start:=continues_iff.mpr ⟨hsp,hbef⟩
 have hwin:InWindow r r.start:=fun _=>⟨le_refl _,by omega⟩
 have hwin':InWindow r (r.start+week):=fun _=>⟨by omega,hbef⟩
 have hlen:(segment (s.venue hashes hp) r.start).length=2:=by
  rw[Sample.segment_eq hin,Sample.rows,length_map,hids]
 have hplace:(s.venue hashes hp).place (lower r r.start) (upper r r.start) (s.mark (upper r r.start))=some 1:=by
  obtain ⟨hnil,hoth⟩:=s.mark_ne (upper r r.start)
  exact (if_neg (by simp[hnil,hoth])).trans (if_pos rfl)
 obtain ⟨limit,hlimit,hstep⟩:=loop_step seen now hwin (room_nil hp) hplace
 have hsize:=(s.venue hashes hp).size_pos (lower r r.start) (upper r r.start) 1 limit hlimit
 cases hstep with
 | mark hmore _=>omega
 | full _ _ hres=>
  rw[if_pos hcont,hcont.finish_eq] at hres
  grind
 | next _ hroom _ hres=>
  rw[hcont.finish_eq] at hres
  obtain ⟨taken,hloop⟩:=s.loop_two hids hin' hwin' hroom
  exact ⟨taken,_,hres.trans hloop,.inr rfl⟩
 | last _ hlast=>exact absurd hcont hlast

theorem incomplete_before_epoch (hashes:Hashes) (hp:prepare client r=.ok p) (hdt:Dated r)
 (hsp:splitWindow r=true) (hear:(r.start+week)/milli≤0):
 ∃ v:Venue hashes client p r.instrument,¬ Complete v:=by
 have hbef:=splitWindow_lt hsp
 have hweek:0<week:=by decide
 have hfst:r.start/milli≤0:=by
  simp only[milli,week] at *
  omega
 have hwin:InWindow r r.start:=fun _=>⟨le_refl _,by omega⟩
 have hback:resumed r r.start=r.start:=by
  rw[resumed_split hsp hdt.start,if_neg (by omega)]
 have hback':resumed r (r.start+week)=r.start:=by
  rw[resumed_split hsp (hdt.inside (by omega) hbef.le),if_neg (by omega)]
 let s:=twoAt 1 (by decide) (by decide) (fun _ => "1") (fun _=>by decide)
 have hin:s.In r r.start:=by
  refine ⟨?_,upper_one hdt (le_refl _)⟩
  rw[lower_bound hdt hsp (le_refl _) (by omega),bound,if_neg (by omega)]
  rfl
 have hin':s.In r (r.start+week):=by
  refine ⟨?_,upper_one hdt (by omega)⟩
  rw[lower_bound hdt hsp (by omega) hbef,bound,if_neg (by omega)]
  rfl
 refine ⟨s.venue hashes hp,fun hcom=>?_⟩
 obtain ⟨n,payments,hfol,-⟩:=hcom fun _=>0
 -- every cursor stands for the first slice
 have hstu:follow (call (s.venue hashes hp) fun _=>0) n (0,"")=.ok none:=by
  refine follow_stuck (fun c:ℕ×String=>∃ venueCursor seen,Stands hashes client p r c.2 r.start venueCursor seen∧
   (venueCursor=""∨venueCursor="1")) ?_ ?_ n
  · rintro ⟨i,cursor⟩ ⟨venueCursor,seen,hst,hven⟩
    obtain rfl | rfl:=hven
    · obtain ⟨items,next,later,hcall,hnext⟩:=call_marked hp hst (fun _=>0) i
       (s.loop_two rfl hin hwin (room_nil hp))
      rw[hback] at hnext
      exact ⟨items,_,hcall,"1",later,hnext,.inr rfl⟩
    · obtain ⟨taken,mark,hloop,hmark⟩:=s.loop_second rfl hin hin' hsp
      obtain ⟨items,next,later,hcall,hnext⟩:=call_marked hp hst (fun _=>0) i ⟨taken,hloop⟩
      rw[hback'] at hnext
      exact ⟨items,_,hcall,mark,later,hnext,hmark⟩
  · obtain ⟨seen,hst⟩:=stands_empty hashes client p r
    grind
 rw[hstu] at hfol
 cases hfol

theorem call_refused {cursor venueCursor:String} {err:Refusal} (hp:prepare client r=.ok p)
 (hst:Stands hashes client p r cursor sliceStart venueCursor seen) (clock:ℕ→Int) (i:ℕ)
 (hloop:loop hashes client v.answer p r seen (clock i) sliceStart venueCursor []=.error err):
 call v clock (i,cursor)=.error err:=by
 rw[call_eq hp hst,hloop]
 rfl

theorem incomplete_of_refused {clock:ℕ→Int} {first:List Settlement} {next:ℕ×String} {err:Refusal}
 (hfst:call v clock (0,"")=.ok (first,some next)) (hnext:call v clock next=.error err):¬ Complete v:=by
 intro hcom
 obtain ⟨n,payments,hfol,-⟩:=hcom clock
 exact follow_refused hfst hnext n hfol

theorem truncated_start_refused (hashes:Hashes) (hp:prepare client r=.ok p) (hdt:Dated r)
 (hsp:splitWindow r=true) (hfra:r.start % milli≠0) (hlate:0<r.start/milli) (clock:ℕ→Int):
 ∃ (v:Venue hashes client p r.instrument) (first:List Settlement) (next:String),
  call v clock (0,"")=.ok (first,some (1,next))∧
  call v clock (1,next)=.error (.native (invalid client "cursor slice is outside funding payment window")):=by
 have hbef:=splitWindow_lt hsp
 have hweek:0<week:=by decide
 have hwin:InWindow r r.start:=fun _=>⟨le_refl _,by omega⟩
 have hcont:Continues r r.start:=continues_iff.mpr ⟨hsp,hbef⟩
 have hback:resumed r r.start=r.start/milli*milli:=by
  rw[resumed_split hsp hdt.start,if_pos hlate]
 have hins:r.start≤(r.start/milli+1)*milli∧(r.start/milli+1)*milli≤r.finish∧
   r.start/milli+1≤(r.start+week)/milli-1∧(r.start/milli+1)*milli/milli=r.start/milli+1:=by
  simp only[milli,week] at *
  omega
 obtain ⟨time,htime⟩:=Int.eq_ofNat_of_zero_le (show 0≤r.start/milli+1 by omega)
 have hfits:=hdt.inside hins.1 hins.2.1
 rw[hins.2.2.2,htime] at hfits
 let s:=twoAt time (by omega) hfits (fun _ => "1") (fun _=>by decide)
 have htime':(s.time : Int)=r.start/milli+1:=htime.symm
 have hin:s.In r r.start:=
  Sample.in_of_bounds (lower_bound hdt hsp (le_refl _) (by omega))
   (upper_bound_continues hdt (le_refl _) hcont) (by omega) (by omega)
 obtain ⟨seen,hst⟩:=stands_empty hashes client p r
 obtain ⟨items,next,later,hcall,hnext⟩:=call_marked hp hst clock 0
  (s.loop_two rfl hin hwin (room_nil hp))
 rw[hback] at hnext
 have hout:r.start/milli*milli<r.start:=by
  simp only[milli] at *
  omega
 exact ⟨s.venue hashes hp,items,next,hcall,call_refused hp hnext clock 1 (loop_outside hsp hout _)⟩

theorem loop_pass (n:ℕ) (h:∀ j:ℕ,j<n→ segment v (r.start+j*week)=[]∧Continues r (r.start+j*week))
 (hroom:(items.length : Int)<p.limit.toInt):
 loop hashes client v.answer p r seen now r.start "" items =
  loop hashes client v.answer p r seen now (r.start+n*week) "" items:=by
 induction n with
 | zero=>simp
 | succ n ih=>
  obtain ⟨hseg,hcont⟩:=h n n.lt_succ_self
  have hbef:=(continues_iff.mp hcont).2
  have hwin:InWindow r (r.start+n*week):=by
   intro _
   simp only[milli,week] at *
   omega
  grind [week,loop_empty,n.lt_succ_self]

theorem exists_gap (hbef:r.start+week<r.finish) (hgap:(r.start-r.finish) % week<r.start % milli):
 ∃ k:ℕ,0<k∧r.finish≤r.start+k*week+week∧(r.start+k*week)/milli*milli+week<r.finish:=by
 refine ⟨(-((r.start-r.finish)/week)-1).toNat,?_⟩
 simp only[milli,week] at *
 omega

theorem incomplete_gap (hashes:Hashes) (hp:prepare client r=.ok p) (hdt:Dated r)
 (hsp:splitWindow r=true) (hsec:2≤(r.start+week)/milli)
 (hgap:(r.start-r.finish) % week<r.start % milli):
 ∃ v:Venue hashes client p r.instrument,¬ Complete v:=by
 obtain ⟨k,hk,hlast,hnext⟩:=exists_gap (splitWindow_lt hsp) hgap
 let last:=r.start+k*week
 have hlat:r.start≤last∧last<r.finish∧2≤last/milli∧last/milli≤r.finish/milli∧
   r.start≤last/milli*milli∧last/milli*milli<r.finish∧
   (last/milli*milli+week)/milli-1=r.finish/milli-1:=by
  simp only[last,milli,week] at *
  omega
 obtain ⟨hstrt,hfin,htwo,hle,hstrt',hfin',hsame⟩:=hlat
 have hear (j:ℕ) (hj:j<k):r.start+j*week+week<r.finish∧r.start≤r.start+j*week∧
   0<(r.start+j*week+week)/milli-1∧(r.start+j*week+week)/milli-1<r.finish/milli:=by
  simp only[last,milli,week] at *
  omega
 have hfina:¬ Continues r last:=fun hgoes=>by
  have hlt:=(continues_iff.mp hgoes).2
  omega
 have hcont:Continues r (last/milli*milli):=continues_iff.mpr ⟨hsp,hnext⟩
 have hupp:=upper_bound_last hdt hfina
 have hupp':=upper_bound_continues hdt hstrt' hcont
 obtain ⟨time,htime⟩:=Int.eq_ofNat_of_zero_le (show 0≤r.finish/milli by omega)
 have hfits:=hdt.finish
 rw[htime] at hfits
 let s:=twoAt time (by omega) hfits (fun endTime=>if endTime=bound time then "1" else "2")
  (fun endTime=>by split<;>decide)
 have hpas (j:ℕ) (hj:j<k):
   segment (s.venue hashes hp) (r.start+j*week)=[]∧Continues r (r.start+j*week):=by
  obtain ⟨hbef,hstrt,hpos,hless⟩:=hear j hj
  have hcont:Continues r (r.start+j*week):=continues_iff.mpr ⟨hsp,hbef⟩
  refine ⟨Sample.segment_nil ?_,hcont⟩
  rw[upper_bound_continues hdt hstrt hcont,le_bound hpos]
  exact decide_eq_false (show ¬ (time:Int)≤_ by omega)
 have hin:s.In r last:=
  Sample.in_of_bounds (lower_bound hdt hsp hstrt hfin) hupp (show last/milli≤(time:Int) by omega)
   (show (time:Int)≤r.finish/milli by omega)
 have hfor:s.mark (upper r last)≠s.mark (upper r (last/milli*milli)):=by
  have hbou:bound (time-1)≠bound time:=by
   grind [bound]
  rw[hupp,hupp',hsame,htime]
  show (if bound time=bound time then "1" else "2")≠(if bound (time-1)=bound time then "1" else "2")
  grind
 obtain ⟨seen,hst⟩:=stands_empty hashes client p r
 have hloop:∃ taken,loop hashes client (s.venue hashes hp).answer p r seen 0 last "" []=_:=
  s.loop_two rfl hin (fun _=>⟨hstrt,hfin⟩) (room_nil hp)
 rw[←loop_pass k hpas (room_nil hp)] at hloop
 obtain ⟨items,next,later,hcall,hst'⟩:=call_marked hp hst (fun _=>0) 0 hloop
 rw[resumed_split hsp (hdt.inside hstrt hfin.le),if_pos (by omega)] at hst'
 exact ⟨s.venue hashes hp,incomplete_of_refused hcall (call_refused hp hst' (fun _=>0) 1
  (loop_unknown (fun _=>⟨hstrt',hfin'⟩) (room_nil hp) (Sample.place_foreign hfor _)))⟩

theorem loop_first {row:Row} {tail:List Row} {payment:Settlement} (hseg:segment v sliceStart=row::tail)
 (hpaid:paid hashes client p r row=some payment) (hwin:InWindow r sliceStart)
 (hroom:(items.length : Int)<p.limit.toInt):
 ∃ more next,loop hashes client v.answer p r seen now sliceStart "" items=.ok (items++⟨payment,now⟩::more,next):=by
 have hleft:left v sliceStart 0=row::(tail++after v sliceStart):=by
  rw[left,hseg,drop_zero,cons_append]
 obtain ⟨result,hloop,hends⟩:=
  loop_ends (fun _=>True) (fun _ _ _=>trivial) trivial hwin hroom (v.place_empty _ _)
 cases hends with
 | last=>
  rw[hleft,filterMap_cons,hpaid] at hloop
  exact ⟨_,_,hloop⟩
 | more taken nextStart nextPlace venueCursor total hne hsp=>
  obtain ⟨first,others,rfl⟩:=exists_cons_of_ne_nil hne
  rw[hleft,cons_append] at hsp
  cases (cons.inj hsp).1
  rw[filterMap_cons,hpaid] at hloop
  exact ⟨_,_,hloop⟩

theorem sampleRow_paid (hp:prepare client r=.ok p) {time:ℕ} (hpos:0<time)
 (hfits:Decimal.fitsInt64 time=true) {id:String} (hid:GoText.trimSpace id≠"")
 (hstrt:r.start≤time*milli) (hfin:time*milli<r.finish):
 ∃ payment,paid hashes client p r (sampleRow p time id)=some payment:=by
 obtain ⟨payment,hread⟩ : ∃ payment,readRow hashes client p r.instrument _=.ok payment:=
  sampleRow_reads hp hpos hfits hid
 have hwit:withinHalfOpen payment.effectiveAt r.start r.finish=true:=by
  grind [readRow_time,sampleRow_millis,withinHalfOpen]
 refine ⟨payment,?_⟩
 rw[paid,hread]
 exact if_pos hwit

def oneAtOne:Sample where
 time:=1
 ids:=["1"]
 mark _:="1"
 time_pos:=by decide
 time_fits:=by decide
 ids_present:=by decide
 ids_length:=by decide
 mark_ne _:=by decide

theorem oneAtOne_segment (hdt:Dated r) (hsp:splitWindow r=true) (hstrt:r.start≤ sliceStart)
 (hfin:sliceStart<r.finish) (hear:sliceStart/milli≤1):
 segment (oneAtOne.venue hashes hp) sliceStart=[sampleRow p 1 "1"]:=by
 have hin:oneAtOne.In r sliceStart:=by
  refine ⟨?_,upper_one hdt hstrt⟩
  rw[lower_bound hdt hsp hstrt hfin,bound_le (by decide)]
  exact decide_eq_true hear
 exact Sample.segment_eq hin

theorem incomplete_first_millisecond (hashes:Hashes) (hp:prepare client r=.ok p) (hdt:Dated r)
 (hsp:splitWindow r=true) (hone:(r.start+week)/milli=1):
 ∃ v:Venue hashes client p r.instrument,¬ Complete v:=by
 have hbef:=splitWindow_lt hsp
 have hbou:r.start/milli≤1∧r.start≤ milli∧milli<r.finish∧milli/milli=1:=by
  simp only[milli,week] at *
  omega
 obtain ⟨hear,hstrt,hins,hmil⟩:=hbou
 have hweek:0<week:=by decide
 have hcont:Continues r r.start:=continues_iff.mpr ⟨hsp,hbef⟩
 have hwin:InWindow r r.start:=fun _=>⟨le_refl _,by omega⟩
 have hback:resumed r (r.start+week)=milli:=by
  rw[resumed_split hsp (hdt.inside (by omega) hbef.le),hone,if_pos (by decide),one_mul]
 obtain ⟨payment,hpaid⟩ : ∃ payment,paid hashes client p r (sampleRow p 1 "1")=some payment:=
  sampleRow_paid hp (by decide) (by decide) (by decide) (by rwa[Nat.cast_one,one_mul]) (by rwa[Nat.cast_one,one_mul])
 have hseg {sliceStart:Int} (hstrt:r.start≤ sliceStart) (hfin:sliceStart<r.finish)
   (hear:sliceStart/milli≤1):segment (oneAtOne.venue hashes hp) sliceStart=[sampleRow p 1 "1"]:=
  oneAtOne_segment hdt hsp hstrt hfin hear
 have hfst:=hseg (le_refl r.start) (by omega) hear
 have hrest:rest (oneAtOne.venue hashes hp) 0 r.start 0=[⟨payment,0⟩]:=by
  rw[rest,hfst,drop_zero,filterMap_cons,hpaid]
  rfl
 refine ⟨oneAtOne.venue hashes hp,fun hcom=>?_⟩
 obtain ⟨n,payments,hfol,hperm⟩:=hcom fun _=>0
 have hsma:payments.length≤1:=hperm.length_eq.le.trans (length_filterMap_le _ _)
 obtain ⟨seen,hst⟩:=stands_empty hashes client p r
 obtain ⟨limit,hlimit,hstep⟩:=loop_step seen 0 hwin (room_nil hp) ((oneAtOne.venue hashes hp).place_empty _ _)
 have hsize:=(oneAtOne.venue hashes hp).size_pos (lower r r.start) (upper r r.start) 0 limit hlimit
 cases hstep with
 | mark hmore _=>
  grind
 | full _ _ hres=>
  rw[hrest,nil_append,if_pos hcont,hcont.finish_eq] at hres
  have hnext:Stands hashes client p r _ (resumed r (r.start+week)) "" _:=
   stands_next seen [⟨payment,0⟩] "" (r.start+week)
  rw[if_pos hsp,hback] at hnext
  obtain ⟨more,next,hloop⟩:=loop_first (hseg hstrt hins hmil.le) hpaid (fun _=>⟨hstrt,hins⟩) (room_nil hp)
  have hcall:=call_eq (v:=oneAtOne.venue hashes hp) hp hst (fun _=>0) 0
  have hcall':=call_eq (v:=oneAtOne.venue hashes hp) hp hnext (fun _=>0) 1
  rw[hres] at hcall
  rw[hloop] at hcall'
  obtain hlast | ⟨first,second,others,m,hmore,hos,heq⟩:=follow_eq_some hfol
  · rw[hcall] at hlast
    cases hlast
  · rw[hcall] at hmore
    cases hmore
    have hlen:=(follow_first hcall' hos).length_le
    grind
 | next _ hroom _ hres=>
  rw[hrest,hcont.finish_eq] at hres
  rw[hrest] at hroom
  obtain ⟨more,next,hloop⟩:=loop_first (hseg (by omega) hbef hone.le) hpaid (fun _=>⟨by omega,hbef⟩) hroom
  have hcall:=call_eq (v:=oneAtOne.venue hashes hp) hp hst (fun _=>0) 0
  rw[hres,hloop] at hcall
  have hlen:=(follow_first hcall hfol).length_le
  grind
 | last _ hlast=>exact absurd hcont hlast

/-- Which requests a traversal of the slices answers with every settlement once. -/
theorem traversal_complete_iff (hashes:Hashes) (hp:prepare client r=.ok p) (hdated:Dated r):
 (∀ v:Venue hashes client p r.instrument,Complete v) ↔ Sound r:=by
 constructor
 · intro hall
   by_contra hso
   suffices hfai:∃ v:Venue hashes client p r.instrument,¬ Complete v by
    obtain ⟨v,hv⟩:=hfai
    exact hv (hall v)
   have hsp:splitWindow r=true:=by
    cases h : splitWindow r with
    | true=>rfl
    | false=>exact absurd (.inl h) hso
   have hsec:¬ (2≤(r.start+week)/milli∧(r.start % milli=0∨r.start/milli≤0)∧
    r.start % milli≤(r.start-r.finish) % week):=fun h=>hso (.inr h)
   by_cases hepo:(r.start+week)/milli≤0
   · exact incomplete_before_epoch hashes hp hdated hsp hepo
   by_cases hone:(r.start+week)/milli=1
   · exact incomplete_first_millisecond hashes hp hdated hsp hone
   by_cases hwh:r.start % milli=0∨r.start/milli≤0
   · exact incomplete_gap hashes hp hdated hsp (by omega) (by omega)
   · obtain ⟨v,first,next,hfst,hnext⟩:=
      truncated_start_refused hashes hp hdated hsp (by omega) (by omega) fun _=>0
     exact ⟨v,incomplete_of_refused hfst hnext⟩
 all_goals grind [complete_of_sound,prepare_limit]

end

def perp:Client:=
 { venue:=.bybit,product:=.perp,category:="linear",settleCoin:="USDT",restBaseUrl:="",apiKey:="key",
   secretKey:="secret" }

def thirtyDays (start:Int):Request:=
 {instrument:=none,settlementAsset:="USDT",start,finish:=start+2592000000*milli,limit:=1}

def everySettlement:Prepared:={native:="",baseCoin:="",asset:="USDT",limit:=1}

theorem half_millisecond_cursor_refused :
 prepare perp (thirtyDays 1700000000123500000)=.ok everySettlement∧
 ∃ (v:Venue Scenario.plain perp everySettlement (thirtyDays 1700000000123500000).instrument) (first:List Settlement)
  (next:String),call v (fun _=>0) (0,"")=.ok (first,some (1,next))∧
  call v (fun _=>0) (1,next) =
   .error (.native (invalid perp "cursor slice is outside funding payment window")):=by
 have hp:prepare perp (thirtyDays 1700000000123500000)=.ok everySettlement:=rfl
 exact ⟨hp,truncated_start_refused Scenario.plain hp ⟨by decide,by decide⟩ (by decide) (by decide) (by decide) fun _=>0⟩

theorem traversal_complete_whole_millisecond :
 prepare perp (thirtyDays 1700000000123000000)=.ok everySettlement∧Dated (thirtyDays 1700000000123000000)∧
 ∀ v:Venue Scenario.plain perp everySettlement (thirtyDays 1700000000123000000).instrument,Complete v:=by
 have hp:prepare perp (thirtyDays 1700000000123000000)=.ok everySettlement:=rfl
 have hdt:Dated (thirtyDays 1700000000123000000):=⟨by decide,by decide⟩
 exact ⟨hp,hdt,(traversal_complete_iff Scenario.plain hp hdt).mpr (by decide)⟩

end BolterTrader.Adapters.BybitFunding
