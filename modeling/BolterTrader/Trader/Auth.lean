import BolterTrader.Foundations.Table
import Mathlib.Data.List.Chain

/-! The sessions of the trading application and its slowing of password guesses (`trader/auth.go`).
Times are nanoseconds. -/
namespace BolterTrader.Trader
open List Foundations

def second:Int:=1000000000
def sessionIdle:Int:=12*3600*second
def sessionAbsolute:Int:=7*24*3600*second
def maxLoginBackoff:Int:=15*60*second
def loginFailureSpan:Int:=3600*second

/-! ## Sessions -/

structure Session where
 created:Int
 lastSeen:Int

abbrev Sessions:=Table String Session

def Sessions.create (s:Sessions) (token:String) (now:Int):Sessions:=s.put token ⟨now,now⟩

def Sessions.valid (s:Sessions) (token:String) (now:Int):Bool×Sessions:=
 if token = "" then (false,s) else
  match s.get token with
  | none=>(false,s)
  | some current=>
   if now-current.lastSeen>sessionIdle∨now-current.created>sessionAbsolute then (false,s.erase token)
   else (true,s.put token {current with lastSeen:=now})

def Sessions.delete (s:Sessions) (token:String):Sessions:=s.erase token

/-- One call, with the time it has read: the calls take the lock in any order of these times. -/
inductive SessionCall
 | create (token:String) (now:Int)
 | valid (token:String) (now:Int)
 | delete (token:String)

def Sessions.after (s:Sessions):SessionCall→Sessions
 | .create token now=>s.create token now
 | .valid token now=>(s.valid token now).2
 | .delete token=>s.delete token

/-- When a token was last issued, if it was not taken back, and when it was checked since. -/
def issued (token:String) (past:Option (Int×List Int)):SessionCall→Option (Int×List Int)
 | .create t now=>if t=token then some (now,[]) else past
 | .valid t now=>if t=token then past.map fun x=>(x.1,x.2++[now]) else past
 | .delete t=>if t=token then none else past

/-- No check comes later than the limits of a session allow. -/
structure Fresh (created:Int) (checks:List Int):Prop where
 idle:(created::checks).IsChain fun a b=>b-a≤ sessionIdle
 absolute:∀ t∈checks,t-created≤ sessionAbsolute

theorem fresh_concat {created last now:Int} {checks:List Int} (hlast:(created::checks).getLast?=some last):
 Fresh created (checks++[now]) ↔
  Fresh created checks∧now-last≤ sessionIdle∧now-created≤ sessionAbsolute:=by
 constructor
 · rintro ⟨hidle,habs⟩
   rw[←cons_append,isChain_append] at hidle
   refine ⟨⟨hidle.1,fun t ht=>habs t (mem_append_left _ ht)⟩,?_,habs now (by simp)⟩
   exact hidle.2.2 last hlast now rfl
 · rintro ⟨⟨hidle,habs⟩,hgap,hage⟩
   refine ⟨?_,?_⟩
   · rw[←cons_append,isChain_append]
     grind
   · grind

/-- The row of a token is there as long as no check has found it stale. -/
def Tracks (token:String) (s:Sessions) (past:Option (Int×List Int)):Prop:=
 ∀ row,s.get token=some row ↔ ∃ checks,past=some (row.created,checks)∧Fresh row.created checks∧
  (row.created::checks).getLast?=some row.lastSeen

theorem Tracks.valid_iff {token:String} {s:Sessions} {past:Option (Int×List Int)} (h:Tracks token s past)
 (now:Int):(s.valid token now).1=true ↔
  token≠""∧∃ created checks,past=some (created,checks)∧Fresh created (checks++[now]):=by
 unfold Sessions.valid
 by_cases htoken:token = ""
 · simp[htoken]
 rw[if_neg htoken]
 cases hrow:s.get token with
 | none=>
  simp only[Bool.false_eq_true,false_iff]
  rintro ⟨-,created,checks,rfl,hfresh⟩
  obtain ⟨last,hlast⟩:=Option.isSome_iff_exists.mp (getLast?_isSome.mpr (cons_ne_nil created checks))
  have hsome:=(h ⟨created,last⟩).mpr ⟨checks,rfl,((fresh_concat hlast).mp hfresh).1,hlast⟩
  rw[hrow] at hsome
  cases hsome
 | some row=>
  obtain ⟨checks,rfl,hfresh,hlast⟩:=(h row).mp hrow
  have hiff:=@fresh_concat _ _ now _ hlast
  grind

theorem valid_get {s:Sessions} {token:String} (htoken:token≠"") {now:Int} {row:Session}:
 (s.valid token now).2.get token=some row ↔ (s.valid token now).1=true∧row.lastSeen=now∧
  ∃ old,s.get token=some old∧old.created=row.created:=by
 unfold Sessions.valid
 rw[if_neg htoken]
 cases hold:s.get token with
 | none=>simp[hold]
 | some old=>
  dsimp only
  split
  · simp
  · obtain ⟨created,lastSeen⟩:=row
    simp[eq_comm,and_comm]

theorem valid_other {s:Sessions} {token t:String} (h:token≠t) (now:Int):
 (s.valid t now).2.get token=s.get token:=by
 unfold Sessions.valid
 split
 all_goals grind [Table.get_erase_of_ne,Table.get_put_of_ne]

theorem Tracks.after {token:String} (htoken:token≠"") {s:Sessions} {past:Option (Int×List Int)}
 (h:Tracks token s past) (call:SessionCall):Tracks token (s.after call) (issued token past call):=by
 intro row
 cases call with
 | create t now=>
  simp only[Sessions.after,Sessions.create,issued]
  by_cases ht:t=token
  · obtain ⟨created,lastSeen⟩:=row
    rw[if_pos ht,ht,Table.get_put_self]
    constructor
    · rintro ⟨⟩
      exact ⟨[],rfl,⟨isChain_singleton now,by simp⟩,rfl⟩
    all_goals grind
  · rw[if_neg ht,Table.get_put_of_ne (Ne.symm ht)]
    exact h row
 | valid t now=>
  simp only[Sessions.after,issued]
  by_cases ht:t=token
  · subst ht
    rw[if_pos rfl,valid_get htoken,h.valid_iff]
    constructor
    · rintro ⟨⟨-,created,checks,rfl,hfresh⟩,rfl,old,hold,hcreated⟩
      obtain ⟨_,⟨⟩,-,-⟩:=(h old).mp hold
      grind
    · rintro ⟨_,hpast,hfresh,hlast⟩
      obtain ⟨⟨created,checks⟩,rfl,heq⟩:=Option.map_eq_some_iff.mp hpast
      cases heq
      rw[←cons_append,getLast?_concat] at hlast
      obtain ⟨last,hseen⟩:=Option.isSome_iff_exists.mp
       (getLast?_isSome.mpr (cons_ne_nil row.created checks))
      have hold:=(h ⟨row.created,last⟩).mpr ⟨checks,rfl,((fresh_concat hseen).mp hfresh).1,hseen⟩
      grind
  · rw[if_neg ht,valid_other (Ne.symm ht)]
    exact h row
 | delete t=>
  simp only[Sessions.after,Sessions.delete,issued]
  by_cases ht:t=token
  · simp[ht]
  · rw[if_neg ht,Table.get_erase_of_ne (Ne.symm ht)]
    exact h row

/-- After any calls, in any order, a token is accepted exactly if it was issued, was not taken back
since, and no time between its checks, this one included, was over the limits. -/
theorem valid_after_calls (calls:List SessionCall) (token:String) (now:Int):
 ((calls.foldl Sessions.after {}).valid token now).1=true ↔
  token≠""∧∃ created checks,calls.foldl (issued token) none=some (created,checks)∧
   Fresh created (checks++[now]):=by
 by_cases htoken:token = ""
 · simp[Sessions.valid,htoken]
 have htracks:∀ s past,Tracks token s past→
   Tracks token (calls.foldl Sessions.after s) (calls.foldl (issued token) past):=by
  induction calls with
  | nil=>exact fun _ _ h=>h
  | cons call rest ih=>exact fun s past h=>ih _ _ (h.after htoken call)
 exact (htracks {} none fun row=>by simp[Table.get]).valid_iff now

/-! ## Password guesses -/

structure Failure where
 count:ℕ:=0
 last:Int:=0
 wall:Int:=0

/-- `wall` is the time `until` which the address has to wait. -/
abbrev Throttle:=Table String Failure

def Throttle.wait (t:Throttle) (ip:String) (now:Int):Int:=
 match t.get ip with
 | none=>0
 | some entry=>if entry.wall-now>0 then entry.wall-now else 0

def delay (count:ℕ):Int:=
 if second*(1<<<min (count-1) 20:ℕ)>maxLoginBackoff then maxLoginBackoff
 else second*(1<<<min (count-1) 20:ℕ)

def Throttle.fail (t:Throttle) (ip:String) (now:Int):Throttle:=
 let entry:Failure:=match t.get ip with
  | none=>{}
  | some entry=>if now-entry.last>loginFailureSpan then {} else entry
 t.put ip ⟨entry.count+1,now,now+delay (entry.count+1)⟩

def Throttle.succeed (t:Throttle) (ip:String):Throttle:=t.erase ip

def retryAfter (wait:Int):Int:=max 1 ((wait+second/2)/second)

/-- A login: the password is right or wrong, or the body is no JSON. -/
structure Login where
 ip:String
 asked:Int
 judged:Int
 right:Option Bool

inductive Reply
 | throttled (retryAfter:Int)
 | invalid
 | refused
 | accepted

def login (t:Throttle) (l:Login):Reply×Throttle:=
 if t.wait l.ip l.asked>0 then (.throttled (retryAfter (t.wait l.ip l.asked)),t)
 else
  match l.right with
  | none=>(.invalid,t)
  | some false=>(.refused,t.fail l.ip l.judged)
  | some true=>(.accepted,t.succeed l.ip)

/-- The wrong guesses of an address since its last right one, the latest first. -/
def wrong (ip:String) (x:Throttle×List Int) (l:Login):Throttle×List Int:=
 ((login x.1 l).2,if l.ip≠ip then x.2 else
  match (login x.1 l).1 with
  | .refused=>l.judged::x.2
  | .accepted=>[]
  | _=>x.2)

/-- Wrong guesses with the count that the latest of them, `last`, has left behind. -/
inductive Paced:ℕ→Int→List Int→Prop
 | first (last:Int):Paced 1 last []
 | soon {count last past} {now:Int} (h:Paced count last past) (hwait:last+delay count≤now):
  Paced (count+1) now (last::past)
 | late {count last past} {now:Int} (h:Paced count last past) (hspan:now-last>loginFailureSpan):
  Paced 1 now (last::past)

def Counted:Option Failure→List Int→Prop
 | none,[]=>True
 | some entry,last::past=>entry.last=last∧entry.wall=last+delay entry.count∧Paced entry.count last past
 | _,_=>False

theorem Counted.fail {t:Throttle} {ip:String} {asked now:Int} {past:List Int} (h:Counted (t.get ip) past)
 (hwait:¬t.wait ip asked>0) (hnow:asked≤now):Counted ((t.fail ip now).get ip) (now::past):=by
 unfold Throttle.fail
 rw[Table.get_put_self]
 unfold Throttle.wait at hwait
 cases hentry:t.get ip with
 | none=>
  cases past with
  | nil=>exact ⟨rfl,rfl,.first now⟩
  | cons=>
   rw[hentry] at h
   exact h.elim
 | some entry=>
  rw[hentry] at h hwait
  cases past with
  | nil=>exact h.elim
  | cons last past=>
   obtain ⟨rfl,hwall,hpaced⟩:=h
   dsimp only at hwait ⊢
   split
   · exact ⟨rfl,rfl,hpaced.late ‹_›⟩
   · refine ⟨rfl,rfl,hpaced.soon ?_⟩
     split at hwait<;>omega

theorem login_other {t:Throttle} {l:Login} {ip:String} (h:ip≠l.ip):(login t l).2.get ip=t.get ip:=by
 unfold login
 split
 · rfl
 · split
   · rfl
   · exact Table.get_put_of_ne h t _
   · exact Table.get_erase_of_ne h t

theorem counted_wrong {ip:String} {x:Throttle×List Int} {l:Login} (h:Counted (x.1.get ip) x.2)
 (hl:l.asked≤l.judged):Counted ((wrong ip x l).1.get ip) (wrong ip x l).2:=by
 unfold wrong
 by_cases hip:l.ip=ip
 · subst hip
   simp only[ne_eq,not_true_eq_false,if_false]
   unfold login
   split
   · exact h
   · cases l.right with
     | none=>exact h
     | some right=>
      cases right with
      | false=>exact h.fail ‹_› hl
      | true=>
       simp only[Throttle.succeed,Table.get_erase_self]
       trivial
 · rw[if_pos hip,login_other (Ne.symm hip)]
   exact h

theorem delay_mono {a b:ℕ} (h:a≤b):delay a≤delay b:=by
 have hpow:1<<<min (a-1) 20≤1<<<min (b-1) 20:=by
  rw[Nat.shiftLeft_eq,Nat.shiftLeft_eq]
  exact Nat.mul_le_mul_left 1 (Nat.pow_le_pow_right (by decide) (by omega))
 unfold delay second
 split<;>split<;>omega

theorem delay_nonneg (n:ℕ):0≤delay n:=by
 unfold delay
 split
 · decide
 · exact Int.mul_nonneg (by decide) (Int.natCast_nonneg _)

/-- The least time that `n` wrong guesses after a first one take. -/
def leastSpan:ℕ→Int
 | 0=>0
 | n+1=>leastSpan n+delay (n+1)

theorem leastSpan_nonneg (n:ℕ):0≤leastSpan n:=by
 induction n with
 | zero=>exact Int.le_refl 0
 | succ n ih=>
  have hdelay:=delay_nonneg (n+1)
  unfold leastSpan
  omega

theorem Paced.pos {count:ℕ} {last:Int} {past:List Int} (h:Paced count last past):1≤count:=by
 cases h with
 | first | late=>exact Nat.le_refl 1
 | soon=>exact Nat.succ_le_succ (Nat.zero_le _)

/-- Of two wrong guesses, the later one comes over an hour after the other or after the waits that
the guesses from there on have added up. -/
theorem Paced.span {count:ℕ} {last:Int} {past:List Int} (h:Paced count last past) {n:ℕ} {old:Int}
 (hold:past[n]?=some old):
 last-old>loginFailureSpan∨n+2≤count∧leastSpan (n+1)≤last-old:=by
 induction h generalizing n with
 | first=>cases hold
 | @soon count last past now h hwait ih=>
  cases n with
  | zero=>
   cases hold
   have hpos:=h.pos
   have hmono:=delay_mono (show 0+1≤_ from hpos)
   simp only[leastSpan]
   omega
  | succ n=>
   rcases ih hold with hfar | ⟨hcount,hspan⟩
   · have hnonneg:=delay_nonneg count
     omega
   · have hmono:=delay_mono (show n+1+1≤_ from hcount)
     grind [leastSpan]
 | late h hspan ih=>
  left
  cases n with
  | zero=>
   cases hold
   exact hspan
  | succ n=>
   rcases ih hold with hfar | ⟨-,hwaits⟩
   · unfold loginFailureSpan second at *
     omega
   · have hnonneg:=leastSpan_nonneg (n+1)
     omega

theorem counted_run {ip:String} {logins:List Login} (hl:∀ l∈logins,l.asked≤l.judged)
 {x:Throttle×List Int} (h:Counted (x.1.get ip) x.2):
 Counted ((logins.foldl (wrong ip) x).1.get ip) (logins.foldl (wrong ip) x).2:=by
 induction logins generalizing x with
 | nil=>exact h
 | cons l rest ih=>
  grind [counted_wrong]

theorem Paced.tail {count:ℕ} {last:Int} {past:List Int} (h:Paced count last past) {i:ℕ} {late:Int}
 (hlate:(last::past)[i]?=some late):∃ count,Paced count late (past.drop i):=by
 induction h generalizing i with
 | first=>
  cases i with
  | zero=>
   cases hlate
   exact ⟨1,.first _⟩
  | succ=>cases hlate
 | soon h hwait ih=>
  cases i with
  | zero=>
   cases hlate
   exact ⟨_,h.soon hwait⟩
  | succ i=>exact ih hlate
 | late h hspan ih=>
  cases i with
  | zero=>
   cases hlate
   exact ⟨_,h.late hspan⟩
  | succ i=>exact ih hlate

/-- An address whose logins are judged one at a time has at most 13 wrong guesses in an hour: of the
wrong guesses since its last right one, the thirteenth before any guess is over an hour older. -/
theorem wrong_guesses_per_hour {ip:String} {logins:List Login} (hl:∀ l∈logins,l.asked≤l.judged)
 {i:ℕ} {late early:Int} (hlate:(logins.foldl (wrong ip) ({},[])).2[i]?=some late)
 (hearly:(logins.foldl (wrong ip) ({},[])).2[i+13]?=some early):late-early>loginFailureSpan:=by
 have hc:=@counted_run ip logins hl ({},[]) (by simp[Table.get,Counted])
 revert hc hlate hearly
 generalize (logins.foldl (wrong ip) ({},[])).2=times
 intro hlate hearly hc
 cases times with
 | nil=>cases hlate
 | cons last past=>
  cases hentry:(logins.foldl (wrong ip) ({},[])).1.get ip with
  | none=>
   rw[hentry] at hc
   exact hc.elim
  | some entry=>
   rw[hentry] at hc
   obtain ⟨count,hpaced⟩:=hc.2.2.tail hlate
   have hold:(past.drop i)[12]?=some early:=by
    grind
   rcases hpaced.span hold with hfar | ⟨-,hspan⟩
   · exact hfar
   · have hleast:loginFailureSpan<leastSpan (12+1):=by decide
     omega

/-- Fourteen wrong guesses, 1000 seconds apart. -/
theorem wrong_guesses_apart:13*1000*second-0>loginFailureSpan:=
 @wrong_guesses_per_hour "10.0.0.1"
  ((range 14).map fun n=>⟨"10.0.0.1",n*1000*second,n*1000*second,some false⟩) (by decide) 0 _ _
  (by decide) (by decide)

end BolterTrader.Trader
