import BolterTrader.Foundations.Primality
import Mathlib.RingTheory.Int.Basic
import Mathlib.Tactic.NormNum.Prime
import Mathlib.Tactic.ReduceModChar

/-! The curve of EdgeX's signatures (`sdk/edgex/starkcurve/starkcurve.go`): affine
arithmetic on `y² = x³ + x + b` modulo `p`, and the order of its base point. -/
namespace BolterTrader.Edgex
open Foundations

/-! ## Modular inverses -/

def modInverse (g n:ℤ):Option ℤ:=if Int.gcd g n=1 then some (Int.gcdA g n % n) else none

theorem modInverse_mul {g n z:ℤ} (h:modInverse g n=some z):g*z ≡ 1 [ZMOD n]:=by
 obtain ⟨hgcd,hz⟩:=Option.ite_none_right_eq_some.mp h
 have hbez:=Int.gcd_eq_gcd_ab g n
 rw[hgcd] at hbez
 calc g*z ≡ g*Int.gcdA g n [ZMOD n]:=by
       rw[←Option.some.inj hz]
       exact (Int.mod_modEq (Int.gcdA g n) n).mul_left g
  _ ≡ g*Int.gcdA g n+n*Int.gcdB g n [ZMOD n]:=by
   rw[Int.modEq_iff_dvd]
   exact ⟨Int.gcdB g n,by ring⟩
  _=1:=by simpa using hbez.symm

theorem modInverse_of_prime {p:ℕ} (hp:p.Prime) {g:ℤ} (hg:¬g ≡ 0 [ZMOD p]):
 ∃ z,modInverse g p=some z:=by
 have hdvd:¬p ∣ g.natAbs:=by
  intro h
  exact hg (Int.modEq_zero_iff_dvd.mpr (Int.natCast_dvd.mpr h))
 have hgcd:Int.gcd g p=1:=((Nat.Prime.coprime_iff_not_dvd hp).mpr hdvd).symm
 exact ⟨_,if_pos hgcd⟩

/-! ## The curve -/

namespace StarkCurve

def P:ℤ:=0x800000000000011000000000000000000000000000000000000000000000001
def N:ℕ:=0x0800000000000010ffffffffffffffffb781126dcae7b2321e66a241adc64d2f
def gx:ℤ:=0x1ef15c18599971b7beced415a40f0c7deacfd9b0d1819e03d723d8bc943cfca
def gy:ℤ:=0x5668060aa49730b7be4801df46ec62de53ecd11abe43a32873000c36e8dc1f
def bitSize:ℕ:=256
abbrev Point:=ℤ×ℤ

def double (p:Point):Option Point:=do
 let (x,y):=p
 let inverse ← modInverse (2*y) P
 let slope:=(2*(x*x)+x*x+1)*inverse
 let square:=slope*slope
 return ((square % P-2*x) % P,((2*x+x)*slope-slope*square-y) % P)

def add (p q:Point):Option Point:=
 if p.1=0∧p.2=0 then some q
 else if q.1=0∧q.2=0 then some p
 else if p.1=q.1∧p.2≠q.2 then some (0,0)
 else if p.1=q.1∧p.2=q.2 then double p
 else do
  let inverse ← modInverse (q.1-p.1) P
  let slope:=((q.2-p.2)*inverse) % P
  let square:=slope*slope
  return ((square % P-p.1-q.1) % P,((2*p.1+q.1)*slope-square*slope % P-p.2) % P)

def bits (byte:UInt8):List Bool:=(List.range 8).map fun i=>byte.toNat.testBit (7-i)

def scalarStep (base:Point) (state:Bool×Point) (bit:Bool):Option (Bool×Point):=do
 let (seen,p):=state
 let p ← if seen then double p else some p
 if bit then
  if seen then return (true,←add base p) else return (true,p)
 else return (seen,p)

def scalarMult (base:Point) (k:List UInt8):Option Point:=do
 let (seen,p) ← (k.flatMap bits).foldlM (scalarStep base) (false,base)
 if seen then return p else none

def scalarBaseMult (k:List UInt8):Option Point:=scalarMult (gx,gy) k

end StarkCurve

/-! ## The order is prime -/

theorem prime_34bit:Nat.Prime 11753132899:=by
 refine prime_of_order 3 [2,3,13,19,41,67,2887] ?_ (by norm_num) ?_ ?_
 · norm_num [List.Forall]
 · norm_num only
   reduce_mod_char
 · norm_num only [List.Forall]
   reduce_mod_char
   decide

theorem prime_35bit:Nat.Prime 28547348873:=by
 refine prime_of_order 3 [2,2,2,7,17,53,565787] ?_ (by norm_num) ?_ ?_
 · norm_num [List.Forall]
 · norm_num only
   reduce_mod_char
 · norm_num only [List.Forall]
   reduce_mod_char
   decide

theorem prime_44bit:Nat.Prime 12904939923103:=by
 refine prime_of_order 3 [2,3,3,61,11753132899] ?_ (by norm_num) ?_ ?_
 · exact ⟨by norm_num,by norm_num,by norm_num,by norm_num,prime_34bit⟩
 · norm_num only
   reduce_mod_char
 · norm_num only [List.Forall]
   reduce_mod_char
   decide

theorem prime_71bit:Nat.Prime 1803099112058626586861:=by
 refine prime_of_order 2 [2,2,5,37,43,4391,12904939923103] ?_ (by norm_num) ?_ ?_
 · exact ⟨by norm_num,by norm_num,by norm_num,by norm_num,by norm_num,by norm_num,prime_44bit⟩
 · norm_num only
   reduce_mod_char
 · norm_num only [List.Forall]
   reduce_mod_char
   decide

theorem prime_202bit:Nat.Prime 5470365079085120887157193270902448565659295524958143968059153:=by
 refine prime_of_order 15 [2,2,2,2,3,131797,10108547,22206313,74837449,28547348873,
  1803099112058626586861] ?_ (by norm_num) ?_ ?_
 · exact ⟨by norm_num,by norm_num,by norm_num,by norm_num,by norm_num,by norm_num,by norm_num,
    by norm_num,by norm_num,prime_35bit,prime_71bit⟩
 · norm_num only
   reduce_mod_char
 · norm_num only [List.Forall]
   reduce_mod_char
   decide

theorem StarkCurve.prime_N:StarkCurve.N.Prime:=by
 unfold StarkCurve.N
 refine prime_of_order 3 [2,3,1481071,74436419,
  5470365079085120887157193270902448565659295524958143968059153] ?_ (by norm_num) ?_ ?_
 · exact ⟨by norm_num,by norm_num,by norm_num,by norm_num,prime_202bit⟩
 · norm_num only
   reduce_mod_char
 · norm_num only [List.Forall]
   reduce_mod_char
   decide

end BolterTrader.Edgex
