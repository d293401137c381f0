import BolterTrader.Edgex.Curve
import BolterTrader.Foundations.Bytes
import BolterTrader.Foundations.Search

/-! EdgeX's signer (`sdk/edgex/starkcurve/rfc6979.go`, `hash.go`,
`sdk/edgex/perp/utils.go`). -/
namespace BolterTrader.Edgex
open Foundations Foundations.Search StarkCurve Option

structure Library where
 mac:List UInt8→List UInt8→List UInt8
 gen:ℤ→BitVec 64
 hexError:String→String

/-! ## The secret -/

def bitLen (n:ℕ):ℕ:=if n=0 then 0 else n.log2+1

def bits2int (bytes:List UInt8) (qlen:ℕ):ℕ:=
 let vlen:=bytes.length*8
 if qlen<vlen then Bytes.toNat bytes >>> (vlen-qlen) else Bytes.toNat bytes

def hashToInt (hash:List UInt8) (orderBits:ℕ):ℕ:=
 let hash:=hash.take ((orderBits+7)/8)
 if orderBits<hash.length*8 then Bytes.toNat hash >>> (hash.length*8-orderBits)
 else Bytes.toNat hash

def macKey (hash:List UInt8):List UInt8:=
 let n:=Bytes.toNat hash
 Bytes.ofNat (if 248≤bitLen n∧1≤bitLen n % 8∧bitLen n % 8<4 then n*16 else n)

def candidate (lib:Library) (q:ℕ) (hash:List UInt8) (randValue:BitVec 64):ℕ:=
 bits2int (lib.mac (macKey hash) (Bytes.ofNat randValue.toInt.natAbs)) (bitLen q)

def inRange (q:ℕ) {β:Type} (test:ℕ→Verdict β) (secret:ℕ):Verdict β:=
 if 1≤ secret∧secret<q then test secret else .retry

def generateSecret {β:Type} (lib:Library) (q:ℕ) (second:ℤ) (hash:List UInt8)
 (test:ℕ→Verdict β) (fuel:ℕ):Option β:=
 search (· + 1) (fun randValue=>inRange q test (candidate lib q hash randValue)) fuel (lib.gen second)

/-! ## Signing -/

def signWith (d:ℕ) (hash:List UInt8) (k:ℕ):Verdict (ℤ×ℤ):=
 match scalarBaseMult (Bytes.ofNat k) with
 | none=>.abort
 | some (x,_)=>
  let r:=x % N
  if r=0 then .retry
  else
   match modInverse k N with
   | none=>.abort
   | some inverse=>
    let s:=(d*r+hashToInt hash bitSize)*inverse % N
    if s=0 then .retry else .accept (r,s)

def sign (lib:Library) (second:ℤ) (fuel:ℕ) (privkey hash:List UInt8):
 Option (Except String (ℤ×ℤ)):=
 if 2^251<Bytes.toNat hash then some (.error "hash cannot sign ")
 else (generateSecret lib N second hash (signWith (Bytes.toNat privkey) hash) fuel).map .ok

/-! ## Recovering the key -/

def solveWith (hash:List UInt8) (r s:ℤ) (k:ℕ):Verdict ℤ:=
 match scalarBaseMult (Bytes.ofNat k) with
 | none=>.abort
 | some (x,_)=>
  if x % N=r then
   match modInverse r N with
   | none=>.abort
   | some inverse=>.accept ((s*k-hashToInt hash bitSize)*inverse % N)
  else .retry

def recoverKey (lib:Library) (hash:List UInt8) (second r s:ℤ):ℕ:=
 ((generateSecret lib N second hash (solveWith hash r s) (2^64)).getD 0).toNat

section
variable {lib:Library} {d k:ℕ} {hash:List UInt8} {r s:ℤ}

theorem signWith_accept (h:signWith d hash k=.accept (r,s)):
 ∃ p inv,scalarBaseMult (Bytes.ofNat k)=some p∧r=p.1 % N∧r≠0∧
  modInverse k N=some inv∧s=(d*r+hashToInt hash bitSize)*inv % N∧s≠0:=by
 unfold signWith at h
 grind

theorem signWith_retry (h:signWith d hash k=.retry):
 ∃ p,scalarBaseMult (Bytes.ofNat k)=some p∧
  (p.1 % N=0∨∃ inv,modInverse k N=some inv∧
   (d*(p.1 % N)+hashToInt hash bitSize)*inv % N=0):=by
 unfold signWith at h
 grind

theorem key_of_equation {n:ℕ} {e k inv r invR s:ℤ} (hk:k*inv ≡ 1 [ZMOD n])
 (hr:r*invR ≡ 1 [ZMOD n]) (hs:s=(d*r+e)*inv % n):
 (s*k-e)*invR ≡ d [ZMOD n]:=by
 have hsk:s*k ≡ d*r+e [ZMOD n]:=by
  calc s*k ≡ (d*r+e)*inv*k [ZMOD n]:=by
        rw[hs]
        exact (Int.mod_modEq _ _).mul_right k
   _=(d*r+e)*(k*inv):=by ring
   _ ≡ (d*r+e)*1 [ZMOD n]:=hk.mul_left _
   _=d*r+e:=by ring
 calc (s*k-e)*invR ≡ (d*r+e-e)*invR [ZMOD n]:=(hsk.sub_right e).mul_right invR
  _=d*(r*invR):=by ring
  _ ≡ d*1 [ZMOD n]:=hr.mul_left _
  _=d:=by ring

theorem solveWith_of_accept (h:signWith d hash k=.accept (r,s)):
 solveWith hash r s k=.accept ((d:ℤ) % N):=by
 obtain ⟨p,inv,hpoi,hr,hrne,hinv,hs,-⟩:=signWith_accept h
 have hunit:¬r ≡ 0 [ZMOD N]:=by
  intro hzero
  apply hrne
  rw[hr] at hzero ⊢
  rw[Int.ModEq,Int.emod_emod,Int.zero_emod] at hzero
  exact hzero
 obtain ⟨invR,hr1⟩:=modInverse_of_prime prime_N hunit
 have hkey:=key_of_equation (modInverse_mul hinv) (modInverse_mul hr1) hs
 simp only[solveWith,hpoi,←hr,if_true,hr1]
 exact congrArg Verdict.accept hkey

theorem solveWith_of_retry {other:ℕ} (h:signWith d hash other=.retry)
 (hacc:signWith d hash k=.accept (r,s)):solveWith hash r s other=.retry:=by
 obtain ⟨p,hpoi,hzero⟩:=signWith_retry h
 obtain ⟨-,inv,-,-,hrne,-,hs,hsne⟩:=signWith_accept hacc
 have hne:p.1 % N≠r:=by
  rintro rfl
  obtain hr | ⟨otherInverse,hinv,hvan⟩:=hzero
  · exact hrne hr
  · apply hsne
    have hsum:d*(p.1 % N)+hashToInt hash bitSize ≡ 0 [ZMOD N]:=by
     calc d*(p.1 % N)+hashToInt hash bitSize
       = (d*(p.1 % N)+hashToInt hash bitSize)*1:=by ring
      _ ≡ (d*(p.1 % N)+hashToInt hash bitSize)*(other*otherInverse) [ZMOD N]:=
       (modInverse_mul hinv).symm.mul_left _
      _=(d*(p.1 % N)+hashToInt hash bitSize)*otherInverse*other:=by ring
      _ ≡ 0*other [ZMOD N]:=(show _ ≡ 0 [ZMOD N] from hvan).mul_right _
      _=0:=by ring
    rw[hs]
    calc (d*(p.1 % N)+hashToInt hash bitSize)*inv % N
      = 0*inv % N:=hsum.mul_right inv
     _=0:=by simp
 simp only[solveWith,hpoi,if_neg hne]

theorem successor_period (v:BitVec 64):(fun w:BitVec 64=>w+1)^[2^64] v=v:=by
 have hite (n:ℕ):(fun w:BitVec 64=>w+1)^[n] v=v+BitVec.ofNat 64 n:=by
  induction n with
  | zero=>simp
  | succ n ih=>
   rw[Function.iterate_succ_apply',ih,BitVec.add_assoc,BitVec.ofNat_add]
   rfl
 rw[hite]
 simp

theorem generateSecret_solve {scn:ℤ} {fuel:ℕ}
 (h:generateSecret lib N scn hash (signWith d hash) fuel=some (r,s)):
 generateSecret lib N scn hash (solveWith hash r s) (2^64)=some ((d:ℤ) % N):=by
 refine search_follow (search_period (by decide) (successor_period _) h) ?_ ?_
 · intro v hv
   grind [inRange,solveWith_of_accept]
 · intro v w hv hw
   grind [inRange,solveWith_of_retry]

theorem recoverKey_eq {scn:ℤ} {fuel:ℕ} {prv:List UInt8}
 (h:sign lib scn fuel prv hash=some (.ok (r,s))):
 recoverKey lib hash scn r s=Bytes.toNat prv % N:=by
 unfold sign at h
 split at h
 · cases h
 · obtain ⟨sgn,hsec,hsig⟩:=map_eq_some_iff.mp h
   cases hsig
   rw[recoverKey,generateSecret_solve hsec,getD_some]
   grind

end

/-- The private key is a function of one message and its signature. -/
theorem key_recovered (lib:Library):
 ∃ f:List UInt8→ℤ→ℤ→ℤ→ℕ,∀ (privkey hash:List UInt8) (second r s:ℤ) (fuel:ℕ),
  Bytes.toNat privkey<N→ sign lib second fuel privkey hash=some (.ok (r,s)) →
   f hash second r s=Bytes.toNat privkey:=by
 refine ⟨recoverKey lib,?_⟩
 intro privkey hash second r s fuel hkey hsign
 rw[recoverKey_eq hsign,Nat.mod_eq_of_lt hkey]

def unitLibrary:Library where
 mac _ _:=List.replicate 31 0++[16]
 gen _:=0
 hexError _:="encoding/hex: odd length hex string"

theorem candidate_unitLibrary (hash:List UInt8) (v:BitVec 64):candidate unitLibrary N hash v=1:=by
 change bits2int (List.replicate 31 0++[16]) (bitLen N)=1
 decide +kernel

theorem scalarBaseMult_one:scalarBaseMult (Bytes.ofNat 1)=some (gx,gy):=by
 have hby:Bytes.ofNat 1=[1]:=by simp[Bytes.ofNat]
 rw[hby]
 rfl

theorem modInverse_one {n:ℤ} (hn:1<n):modInverse 1 n=some 1:=by
 have hsome:modInverse 1 n=some (Int.gcdA 1 n % n):=if_pos (Int.one_gcd)
 have hinv:=modInverse_mul hsome
 rw[one_mul,Int.ModEq,Int.emod_emod,Int.emod_eq_of_lt zero_le_one hn] at hinv
 rw[hsome,hinv]

theorem signWith_one:signWith 5 [7] 1=.accept (gx,(5*gx+7) % N):=by
 have hgx:gx % N=gx:=by decide +kernel
 have hgxne:gx≠0:=by decide
 have hs:(5*gx+7) % N≠0:=by decide +kernel
 have he:hashToInt [7] bitSize=7:=by decide
 have hinv:modInverse ((1:ℕ):ℤ) N=some 1:=modInverse_one (by decide)
 simp only[signWith,scalarBaseMult_one,hgx,if_neg hgxne,hinv,he,mul_one,Nat.cast_ofNat,if_neg hs]

theorem sign_one:sign unitLibrary 1700000000 1 [5] [7]=some (.ok (gx,(5*gx+7) % N)):=by
 have hsma:¬2^251<Bytes.toNat [7]:=by decide
 have hran:1≤1∧1<N:=by decide
 have hkey:Bytes.toNat [5]=5:=by decide
 simp only[sign,if_neg hsma,generateSecret,search,candidate_unitLibrary,inRange,if_pos hran,hkey,
  signWith_one,map_some]

theorem key_recovered_five :
 sign unitLibrary 1700000000 1 [5] [7]=some (.ok (gx,(5*gx+7) % N))∧
  ∃ f:List UInt8→ℤ→ℤ→ℤ→ℕ,f [7] 1700000000 gx ((5*gx+7) % N)=5:=by
 obtain ⟨f,hf⟩:=key_recovered unitLibrary
 exact ⟨sign_one,f,hf [5] [7] 1700000000 _ _ 1 (by decide) sign_one⟩

theorem five_recovered :
 sign unitLibrary 1700000000 1 [5] [7]=some (.ok (gx,(5*gx+7) % N))∧
  recoverKey unitLibrary [7] 1700000000 gx ((5*gx+7) % N)=5:=
 ⟨sign_one,recoverKey_eq sign_one⟩

end BolterTrader.Edgex
