import Mathlib.Algebra.Order.Ring.Int
import Mathlib.Data.List.DropRight
import Mathlib.Tactic.Ring

/-! Instants as text (RFC 3339), as Go's `time` package writes and reads them in JSON:
the calendar date of a day, a text with the fraction of the second as short as it can be,
and the offset of the zone in whole minutes. -/
namespace BolterTrader.Foundations.Rfc3339
open List Option

/-! ## The calendar -/

def isLeap (year:Int):Bool:=year % 4=0 && (year % 100≠0 || year % 400=0)
def daysBeforeYear (year:Int):Int:=365*year+(year+3)/4-(year+99)/100+(year+399)/400

def daysBeforeMonth (leap:Bool) (month:ℕ):ℕ:=
 [0,0,31,59,90,120,151,181,212,243,273,304,334].getD month 365+if leap && 2< month then 1 else 0

def daysIn (leap:Bool) (month:ℕ):ℕ:=daysBeforeMonth leap (month+1)-daysBeforeMonth leap month

def yearOf (day:Int):Int:=
 let year:=400*day/146097
 if day<daysBeforeYear year then year-1
 else if daysBeforeYear (year+1)≤day then year+1
 else year

def monthOf (leap:Bool) (dayOfYear:ℕ):ℕ:=
 (List.range 12).countP fun month=>daysBeforeMonth leap (month+1)≤dayOfYear

structure Date where
 year:Int
 month:ℕ
 day:ℕ

def dateOf (day:Int):Date:=
 let year:=yearOf day
 let dayOfYear:=(day-daysBeforeYear year).toNat
 let month:=monthOf (isLeap year) dayOfYear
 {year,month,day:=dayOfYear-daysBeforeMonth (isLeap year) month+1}

def Date.number (date:Date):Int:=
 daysBeforeYear date.year+daysBeforeMonth (isLeap date.year) date.month+date.day-1

theorem daysBeforeYear_succ (year:Int):
 daysBeforeYear (year+1)=daysBeforeYear year+if isLeap year then 366 else 365:=by
 unfold daysBeforeYear isLeap
 grind

theorem guess_bounds (day:Int):
 daysBeforeYear (400*day/146097-1)≤day∧day<daysBeforeYear (400*day/146097+1+1):=by
 unfold daysBeforeYear
 constructor<;>omega

theorem yearOf_bounds (day:Int):
 daysBeforeYear (yearOf day)≤day∧day<daysBeforeYear (yearOf day+1):=by
 obtain ⟨hlow,hhigh⟩:=guess_bounds day
 unfold yearOf
 grind

theorem month_bounds:∀ leap:Bool,∀ dayOfYear< if leap then 366 else 365,
 let month:=monthOf leap dayOfYear
 1≤ month∧month≤12∧daysBeforeMonth leap month≤dayOfYear∧
  dayOfYear<daysBeforeMonth leap month+daysIn leap month:=by
 decide +kernel

theorem dateOf_spec (day:Int):
 (dateOf day).number=day∧1≤(dateOf day).month∧(dateOf day).month≤12∧1≤(dateOf day).day∧
  (dateOf day).day≤daysIn (isLeap (dateOf day).year) (dateOf day).month:=by
 obtain ⟨hlow,hhigh⟩:=yearOf_bounds day
 rw[daysBeforeYear_succ] at hhigh
 have hlt:(day-daysBeforeYear (yearOf day)).toNat< if isLeap (yearOf day) then 366 else 365:=by
  grind
 obtain ⟨hone,htwe,hmon,hday⟩:=month_bounds (isLeap (yearOf day)) _ hlt
 grind [Date.number,dateOf]

/-! ## Writing -/

structure Time where
 seconds:Int:=0
 nanos:ℕ:=0
 offset:Int:=0
 valid:nanos<1000000000:=by decide

def epoch:Int:=719528

def digits:ℕ→ℕ→List Char
 | 0,_=>[]
 | width+1,n=>digits width (n/10)++[Nat.digitChar (n % 10)]

def fraction (nanos:ℕ):List Char:=if nanos=0 then [] else '.' :: (digits 9 nanos).rdropWhile (· = '0')
def minutes (offset:Int):Int:=offset.tdiv 60

def zone (offset:Int):List Char:=
 if offset=0 then ['Z']
 else
  (if minutes offset<0 then '-' else '+') ::
   (digits 2 ((minutes offset).natAbs/60) ++ ':' :: digits 2 ((minutes offset).natAbs % 60))

def Time.date (t:Time):Date:=dateOf ((t.seconds+t.offset)/86400+epoch)
def Time.secondOfDay (t:Time):ℕ:=((t.seconds+t.offset) % 86400).toNat

def Date.text (date:Date):List Char:=
 digits 4 date.year.toNat ++ '-' :: (digits 2 date.month ++ '-' :: digits 2 date.day)

def clock (second:ℕ):List Char:=
 digits 2 (second/3600) ++ ':' :: (digits 2 (second/60 % 60) ++ ':' :: digits 2 (second % 60))

def Time.format (t:Time):Option (List Char):=
 if t.date.year<0∨9999<t.date.year∨24≤(minutes t.offset).natAbs/60 then none
 else some (t.date.text ++ 'T' :: (clock t.secondOfDay++(fraction t.nanos++zone t.offset)))

/-! ## Reading -/

def value (text:List Char):ℕ:=text.foldl (fun n c=>10*n+(c.toNat-48)) 0

def readNumber (width low high:ℕ) (text:List Char):Option (ℕ×List Char):=
 let number:=text.take width
 if number.length=width∧number.all Char.isDigit∧low≤value number∧value number≤high then
  some (value number,text.drop width)
 else none

def expect (c:Char):List Char→Option (List Char)
 | first::rest=>if first=c then some rest else none
 | []=>none

def readFraction (text:List Char):ℕ×List Char:=
 let number:=text.tail.takeWhile Char.isDigit
 if text.head?=some '.'∧number≠[] then
  (value (number.take 9)*10^(9-(number.take 9).length),text.tail.dropWhile Char.isDigit)
 else (0,text)

def readMinutes (text:List Char):Option ℕ:=do
 let (hours,text) ← readNumber 2 0 23 text
 let text ← expect ':' text
 let (minutes,text) ← readNumber 2 0 59 text
 if text=[] then some (hours*60+minutes) else none

def readSign (c:Char):Option Int:=if c = '+' then some 1 else if c = '-' then some (-1) else none

def readZone (text:List Char):Option Int:=
 if text=['Z'] then some 0
 else
  match text with
  | sign::rest=>(readSign sign).bind fun sign=>(readMinutes rest).map fun minutes=>sign*minutes*60
  | []=>none

def readDate (text:List Char):Option (Date×List Char):=do
 let (year,text) ← readNumber 4 0 9999 text
 let text ← expect '-' text
 let (month,text) ← readNumber 2 1 12 text
 let text ← expect '-' text
 let (day,text) ← readNumber 2 1 (daysIn (isLeap year) month) text
 some ({year,month,day},text)

def readClock (text:List Char):Option (ℕ×List Char):=do
 let (hour,text) ← readNumber 2 0 23 text
 let text ← expect ':' text
 let (minute,text) ← readNumber 2 0 59 text
 let text ← expect ':' text
 let (second,text) ← readNumber 2 0 59 text
 some (hour*3600+minute*60+second,text)

def parse (text:List Char):Option Time:=do
 let (date,text) ← readDate text
 let text ← expect 'T' text
 let (second,text) ← readClock text
 let (nanos,text):=readFraction text
 let offset ← readZone text
 if h : nanos<1000000000 then
  some {seconds:=(date.number-epoch)*86400+second-offset,nanos,offset,valid:=h}
 else none

/-! ## What is written is read back -/

@[simp] theorem length_digits (width n:ℕ):(digits width n).length=width:=by
 induction width generalizing n with
 | zero=>rfl
 | succ width ih=>simp[digits,ih]

theorem digitChar_spec:∀ n<10,(Nat.digitChar n).isDigit=true∧(Nat.digitChar n).toNat-48=n:=by
 decide

theorem all_isDigit_digits (width n:ℕ):(digits width n).all Char.isDigit=true:=by
 induction width generalizing n with
 | zero=>rfl
 | succ width ih=>
  grind [digitChar_spec,digits]

theorem value_append_singleton (text:List Char) (c:Char):value (text++[c])=10*value text+(c.toNat-48):=by
 rw[value,foldl_append]
 rfl

theorem value_digits {width n:ℕ} (h:n<10^width):value (digits width n)=n:=by
 induction width generalizing n with
 | zero=>
  have hzero:n=0:=by simpa using h
  rw[hzero]
  rfl
 | succ width ih=>
  grind [digits,value_append_singleton,digitChar_spec]

theorem readNumber_digits {width low high n:ℕ} (hwid:n<10^width) (hlow:low≤n) (hhigh:n≤high)
 (rest:List Char):readNumber width low high (digits width n++rest)=some (n,rest):=by
 have htake:(digits width n++rest).take width=digits width n:=take_left' (length_digits width n)
 have hdrop:(digits width n++rest).drop width=rest:=drop_left' (length_digits width n)
 simp only[readNumber,htake,hdrop,value_digits hwid,length_digits,all_isDigit_digits,hlow,hhigh,and_self,
  if_true]

theorem expect_cons (c:Char) (rest:List Char):expect c (c::rest)=some rest:=if_pos rfl

/-! ### The fraction -/

theorem value_append_zeros (text:List Char) (count:ℕ):
 value (text++List.replicate count '0')=value text*10^count:=by
 induction count with
 | zero=>simp
 | succ count ih=>
  grind [value_append_singleton,replicate_succ',append_assoc,pow_succ]

theorem rdropWhile_zeros (text:List Char):
 text.rdropWhile (· = '0')++List.replicate (text.length-(text.rdropWhile (· = '0')).length) '0' = text:=by
 induction text using List.reverseRecOn with
 | nil=>rfl
 | append_singleton text c ih=>
  by_cases hc:c = '0'
  · subst hc
    have hinit:(text.rdropWhile (· = '0')).length≤text.length:=( rdropWhile_prefix _ _).length_le
    rw[rdropWhile_concat_pos _ _ _ (by simp)]
    have hct:(text++['0']).length-(text.rdropWhile (· = '0')).length =
      text.length-(text.rdropWhile (· = '0')).length+1:=by
     rw[length_append,length_singleton]
     omega
    rw[hct,replicate_succ',←append_assoc,ih]
  · rw[rdropWhile_concat_neg _ _ _ (by simp[hc])]
    simp

theorem span_digits {number rest:List Char} (h:∀ c∈number,c.isDigit=true)
 (hrest:∀ c∈rest.head?,c.isDigit=false):
 (number++rest).takeWhile Char.isDigit=number∧(number++rest).dropWhile Char.isDigit=rest:=by
 rw[takeWhile_append_of_pos h,dropWhile_append_of_pos h]
 cases rest with
 | nil=>simp
 | cons c=>
  have hc:c.isDigit=false:=hrest c rfl
  simp[hc]

theorem trimmed_spec {nanos:ℕ} (h:nanos<1000000000) (hpos:nanos≠0):
 let number:=(digits 9 nanos).rdropWhile (· = '0')
 number≠[]∧(∀ c∈number,c.isDigit=true)∧number.length≤9∧value number*10^(9-number.length)=nanos:=by
 intro number
 have hinit:number <+: digits 9 nanos := rdropWhile_prefix _ _
 have hv:value number*10^(9-number.length)=nanos:=by
  have htri:=rdropWhile_zeros (digits 9 nanos)
  grind [length_digits,value_append_zeros,value_digits]
 refine ⟨?_,?_,?_,hv⟩
 · grind
 · intro c hc
   exact all_eq_true.mp (all_isDigit_digits 9 nanos) c (hinit.mem hc)
 · simpa using hinit.length_le

theorem readFraction_fraction {nanos:ℕ} (h:nanos<1000000000) {rest:List Char}
 (hrest:∀ c∈rest.head?,c.isDigit=false∧c ≠ '.'):
 readFraction (fraction nanos++rest)=(nanos,rest):=by
 by_cases hzero:nanos=0
 · grind [fraction,readFraction]
 · obtain ⟨hne,hdigi,hlen,hv⟩:=trimmed_spec h hzero
   obtain ⟨htake,hdrop⟩:=span_digits hdigi fun c hc=>(hrest c hc).1
   rw[fraction,if_neg hzero,cons_append,readFraction]
   simp only[List.head?_cons,tail_cons,htake,hdrop,ne_eq,hne,not_false_eq_true,and_self,if_true,
    take_of_length_le hlen,hv]

/-! ### The zone -/

theorem minutes_mul (offset:Int):minutes offset*60=offset-offset.tmod 60:=by
 have h:=Int.tdiv_mul_add_tmod offset 60
 unfold minutes
 omega

theorem zone_head (offset:Int):∀ c∈(zone offset).head?,c.isDigit=false∧c ≠ '.' := by
 unfold zone
 intro c hc
 split at hc
 · simp only[List.head?_cons,mem_some_iff] at hc
   subst hc
   decide
 · simp only[List.head?_cons,mem_some_iff] at hc
   subst hc
   split<;>decide

theorem readMinutes_digits {n:ℕ} (h:n/60<24):
 readMinutes (digits 2 (n/60) ++ ':' :: digits 2 (n % 60))=some n:=by
 have hhou:=readNumber_digits (by omega:n/60<10^2) (Nat.zero_le _) (by omega:n/60≤23)
  (':' :: digits 2 (n % 60))
 have hmin:=readNumber_digits (by omega:n % 60<10^2) (Nat.zero_le _) (by omega:n % 60≤59) []
 rw[append_nil] at hmin
 have hsum:n/60*60+n % 60=n:=by omega
 simp[readMinutes,hhou,expect_cons,hmin,hsum]

theorem readZone_zone {offset:Int} (h:(minutes offset).natAbs/60<24):
 readZone (zone offset)=some (offset-offset.tmod 60):=by
 by_cases hzero:offset=0
 · subst hzero
   rfl
 · have hmin:=readMinutes_digits h
   rw[zone,if_neg hzero,←minutes_mul]
   by_cases hneg:minutes offset<0
   · have habs:((minutes offset).natAbs : Int) = -minutes offset:=by omega
     simp[readZone,hneg,readSign,hmin,habs]
   · have habs:((minutes offset).natAbs : Int)=minutes offset:=by omega
     simp[readZone,hneg,readSign,hmin,habs]

def Time.written (t:Time):Time:=
 {t with seconds:=t.seconds+t.offset.tmod 60,offset:=t.offset-t.offset.tmod 60}

theorem daysIn_le:∀ leap:Bool,∀ month≤12,daysIn leap month≤31:=by decide

theorem secondOfDay_spec (t:Time):
 t.secondOfDay<86400∧(t.secondOfDay : Int)=(t.seconds+t.offset) % 86400:=by
 unfold Time.secondOfDay
 omega

theorem number_date (t:Time):t.date.number-epoch=(t.seconds+t.offset)/86400:=by
 rw[Time.date,(dateOf_spec _).1]
 omega

theorem readDate_text {date:Date} (hyear:0≤date.year) (hyear':date.year≤9999) (hmon:1≤date.month)
 (hmon':date.month≤12) (hday:1≤date.day) (hday':date.day≤daysIn (isLeap date.year) date.month)
 (rest:List Char):readDate (date.text++rest)=some (date,rest):=by
 have hdays:=daysIn_le (isLeap date.year) date.month hmon'
 have hcast:((date.year.toNat : ℕ):Int)=date.year:=Int.toNat_of_nonneg hyear
 have hfour:date.year.toNat<10^4:=by omega
 have htwo:date.month<10^2∧date.day<10^2:=by omega
 simp only[readDate,Date.text,append_assoc,cons_append]
 rw[readNumber_digits hfour (Nat.zero_le _) (by omega)]
 simp only[bind_eq_bind,bind_some,expect_cons,hcast]
 rw[readNumber_digits htwo.1 hmon hmon']
 simp only[bind_some,expect_cons]
 rw[readNumber_digits htwo.2 hday hday',bind_some]

theorem readClock_clock {second:ℕ} (h:second<86400) (rest:List Char):
 readClock (clock second++rest)=some (second,rest):=by
 have hsum:second/3600*3600+second/60 % 60*60+second % 60=second:=by omega
 simp only[readClock,clock,append_assoc,cons_append]
 rw[readNumber_digits (by omega) (Nat.zero_le _) (by omega)]
 simp only[bind_eq_bind,bind_some,expect_cons]
 rw[readNumber_digits (by omega) (Nat.zero_le _) (by omega)]
 simp only[bind_some,expect_cons]
 rw[readNumber_digits (by omega) (Nat.zero_le _) (by omega),bind_some]
 simp only[hsum]

theorem parse_format {t:Time} {text:List Char} (h:t.format=some text):parse text=some t.written:=by
 unfold Time.format at h
 split at h
 next=>cases h
 next hran=>
  cases h
  simp only[not_or,not_lt,not_le] at hran
  obtain ⟨hyear,hyear',hzone⟩:=hran
  obtain ⟨hmon,hmon',hday,hday'⟩:=(dateOf_spec ((t.seconds+t.offset)/86400+epoch)).2
  obtain ⟨hsec,hsec'⟩:=secondOfDay_spec t
  have hn:=number_date t
  rw[parse,readDate_text hyear hyear' hmon hmon' hday hday']
  simp only[bind_eq_bind,bind_some,expect_cons]
  rw[readClock_clock hsec]
  simp only[bind_some]
  rw[readFraction_fraction t.valid (zone_head t.offset)]
  simp only[readZone_zone hzone,bind_some,t.valid,dite_true,hn]
  congr 1
  simp only[Time.written,Time.mk.injEq,and_true]
  omega

theorem Time.written_eq {t:Time} (h:t.offset.tmod 60=0):t.written=t:=by
 simp[Time.written,h]

theorem whole_of_readZone {text:List Char} {offset:Int} (h:readZone text=some offset):
 offset.tmod 60=0:=by
 unfold readZone at h
 split at h
 · cases h
   rfl
 · split at h
   · obtain ⟨sign,-,h⟩:=bind_eq_some_iff.mp h
     obtain ⟨minutes,-,rfl⟩:=map_eq_some_iff.mp h
     exact Int.mul_tmod_left _ _
   · cases h

theorem whole_of_parse {text:List Char} {t:Time} (h:parse text=some t):t.offset.tmod 60=0:=by
 simp only[parse,bind_eq_bind,bind_eq_some_iff] at h
 obtain ⟨date,-,rest,-,second,-,offset,hoff,h⟩:=h
 split at h<;>cases h
 exact whole_of_readZone hoff

/-! ### The characters -/

def isTimeChar (c:Char):Bool:=c.isDigit || ['-','T',':','.','Z','+'].contains c

theorem isTimeChar_digits (width n:ℕ):∀ c∈digits width n,isTimeChar c=true:=by
 intro c hc
 simp[isTimeChar,all_eq_true.mp (all_isDigit_digits width n) c hc]

theorem isTimeChar_fraction (nanos:ℕ):∀ c∈fraction nanos,isTimeChar c=true:=by
 unfold fraction
 split
 · simp
 · intro c hc
   obtain rfl | hdig:=mem_cons.mp hc
   · rfl
   · exact isTimeChar_digits 9 nanos c (( rdropWhile_prefix _ _).mem hdig)

theorem isTimeChar_zone (offset:Int):∀ c∈zone offset,isTimeChar c=true:=by
 unfold zone
 split
 · simp[isTimeChar]
 · intro c hc
   simp only[mem_cons,mem_append] at hc
   obtain rfl | hhou | rfl | hmin:=hc
   · split<;>rfl
   · exact isTimeChar_digits 2 _ c hhou
   · rfl
   · exact isTimeChar_digits 2 _ c hmin

theorem isTimeChar_text (date:Date):∀ c∈date.text,isTimeChar c=true:=by
 intro c hc
 simp only[Date.text,mem_append,mem_cons] at hc
 obtain hyear | rfl | hmon | rfl | hday:=hc
 · exact isTimeChar_digits 4 _ c hyear
 · rfl
 · exact isTimeChar_digits 2 _ c hmon
 · rfl
 · exact isTimeChar_digits 2 _ c hday

theorem isTimeChar_clock (second:ℕ):∀ c∈clock second,isTimeChar c=true:=by
 intro c hc
 simp only[clock,mem_append,mem_cons] at hc
 obtain hhour | rfl | hmin | rfl | hsec:=hc
 · exact isTimeChar_digits 2 _ c hhour
 · rfl
 · exact isTimeChar_digits 2 _ c hmin
 · rfl
 · exact isTimeChar_digits 2 _ c hsec

theorem isTimeChar_format {t:Time} {text:List Char} (h:t.format=some text):
 ∀ c∈text,isTimeChar c=true:=by
 unfold Time.format at h
 split at h
 next=>cases h
 next=>
  cases h
  intro c hc
  simp only[mem_append,mem_cons] at hc
  obtain hdate | rfl | hck | hfra | hzone:=hc
  · exact isTimeChar_text t.date c hdate
  · rfl
  all_goals grind [isTimeChar_clock,isTimeChar_fraction,isTimeChar_zone]

end BolterTrader.Foundations.Rfc3339
