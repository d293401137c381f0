import Mathlib.NumberTheory.LucasPrimality

/-! Primality from a factorisation of the predecessor, in the form in which a
certificate is written down. -/
namespace BolterTrader.Foundations

theorem prime_of_order {p:ℕ} (a:ZMod p) (factors:List ℕ) (hprim:factors.Forall Nat.Prime)
 (hpro:factors.prod=p-1) (hfull:a^(p-1)=1)
 (hprop:factors.Forall fun q=>a^((p-1)/q)≠1):p.Prime:=by
 refine lucas_primality p a hfull ?_
 intro q hq hdvd
 have hpri:∀ r∈factors,Prime r:=fun r hr=>(List.forall_iff_forall_mem.mp hprim r hr).prime
 have hmem:q∈factors:=mem_list_primes_of_dvd_prod hq.prime hpri (hpro▸hdvd)
 exact List.forall_iff_forall_mem.mp hprop q hmem

end BolterTrader.Foundations
