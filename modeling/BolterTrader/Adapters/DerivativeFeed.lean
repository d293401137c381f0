import BolterTrader.Foundations.Transition

/-! Hot instruments of a derivative feed (`funding_market_feed.go`). -/
namespace BolterTrader.Adapters.DerivativeFeed
open Foundations.Transition Function

structure Identity where
 nativeSymbol:String
 nativeId:String:=""

structure Patch where
 snapshot:Bool
 facts:List Identity
 /-- What `validate` finds wrong with the patch. -/
 invalid:Option String:=none

structure Feed where
 routeProfiles:List String
 nativeFamily:String
 resolved:String→Option (Option String):=fun _=>none
 nativeById:String→String:=fun _ => ""
 hot:String→Bool:=fun _=>false
 /-- The symbols the native feed was last told to keep hot. -/
 native:String→Bool:=fun _=>false

abbrev Resolver:=(routeProfile nativeSymbol nativeId:String)→Option String

/-! ## Calls -/

def Feed.setNative (f:Feed) (symbol:String) (active:Bool):Feed:=
 if symbol="" then f else {f with native:=update f.native symbol active}

def Feed.setHotInstrument (f:Feed) (id:String) (active:Bool):Feed:=
 if id="" then f
 else {f with hot:=update f.hot id active}.setNative (f.nativeById id) active

def derivativeResolutionKey (routeProfile:String) (fact:Identity):String:=
 if fact.nativeId≠"" then routeProfile ++ "\x00id:" ++ fact.nativeId else routeProfile ++ "\x00symbol:" ++ fact.nativeSymbol

def Feed.resolve (f:Feed) (resolver:Resolver) (routeProfile:String) (fact:Identity):Feed×Option String:=
 let key:=derivativeResolutionKey routeProfile fact
 match f.resolved key with
 | some resolution=>(f,resolution)
 | none=>
  let resolution:=resolver routeProfile fact.nativeSymbol fact.nativeId
  ({f with resolved:=update f.resolved key (some resolution)},resolution)

def Feed.map (f:Feed) (id symbol:String):Feed:=
 let mapped:={f with nativeById:=update f.nativeById id symbol}
 if f.hot id then mapped.setNative symbol true else mapped

def Feed.visit (resolver:Resolver) (f:Feed):List (Identity×String)→Feed×List (String×String)
 | []=>(f,[])
 | (fact,routeProfile)::rest=>
  match f.resolve resolver routeProfile fact with
  | (f,none)=>f.visit resolver rest
  | (f,some id)=>
   let (next,facts):=(f.map id fact.nativeSymbol).visit resolver rest
   (next,(id,fact.nativeSymbol)::facts)

def Feed.reset (f:Feed) (snapshot:Bool):Feed:=
 if snapshot then {f with resolved:=fun _=>none,nativeById:=fun _ => "" } else f

def Feed.pairs (f:Feed) (patch:Patch):List (Identity×String):=
 patch.facts.flatMap fun fact=>f.routeProfiles.map (fact,·)

def Feed.project (f:Feed) (resolver:Resolver) (patch:Patch):Feed×Except String (List (String×String)):=
 if f.routeProfiles=[]∨f.nativeFamily="" then (f,.error "derivative projection is unavailable")
 else match patch.invalid with
  | some message=>(f,.error message)
  | none=>
   let (next,facts):=(f.reset patch.snapshot).visit resolver (f.pairs patch)
   (next,if patch.facts≠[]∧facts=[] then .error "derivative catalog projection unavailable" else .ok facts)

inductive Event where
 | setHot (id:String) (active:Bool)
 | project (resolver:Resolver) (patch:Patch)

def step (f:Feed):Event→Option Feed
 | .setHot id active=>some (f.setHotInstrument id active)
 | .project resolver patch=>some (f.project resolver patch).1

/-! ## Agreement of the native feed -/

def Feed.Wanted (f:Feed) (symbol:String):Prop:=∃ id,f.hot id=true∧f.nativeById id=symbol
def Feed.Agrees (f:Feed):Prop:=∀ symbol≠"",f.native symbol=true ↔ f.Wanted symbol

/-! ## The ids a patch assigns -/

section
variable (resolver : Resolver) (cache : String → Option (Option String)) (pairs : List (Identity × String))

def resolutionKey (pair : Identity × String) : String := derivativeResolutionKey pair.2 pair.1

/-- The id of a pair: the cached answer for its key, or else the resolver's answer for the first pair of the
patch that has the key. -/
def assignedId (pair : Identity × String) : Option String :=
  (cache (resolutionKey pair)).getD
    ((pairs.find? fun first => resolutionKey first = resolutionKey pair).bind fun first =>
      resolver first.2 first.1.nativeSymbol first.1.nativeId)

/-- The ids that are resolved for the pairs, each with the native symbol of its fact. -/
def assigned : List (String × String) :=
  pairs.filterMap fun pair => (assignedId resolver cache pairs pair).map (·, pair.1.nativeSymbol)

end

def lastSymbol (facts : List (String × String)) (id : String) : Option String :=
  (facts.reverse.find? fun fact => fact.1 = id).map Prod.snd

def Feed.assignedBy (f : Feed) (resolver : Resolver) (patch : Patch) : List (String × String) :=
  assigned resolver (if patch.snapshot then fun _ => none else f.resolved) (f.pairs patch)

/-- When a call keeps the two sets equal, in terms of the feed before the call and of the ids that the patch
assigns. A symbol that a hot id had, or that the patch gives to a hot id, must be the last one that the patch
gives to some hot id, or else be the symbol of a hot id that a patch which is no snapshot leaves out. -/
def Feed.Kept (f : Feed) : Event → Prop
  | .setHot id active =>
    active = true ∨ id = "" ∨ f.nativeById id = "" ∨
      ∀ other ≠ id, f.hot other = true → f.nativeById other ≠ f.nativeById id
  | .project resolver patch =>
    (f.routeProfiles = [] ∨ f.nativeFamily = "" ∨ patch.invalid.isSome) ∨
      ∀ symbol ≠ "", (∃ id, f.hot id = true ∧ (f.nativeById id = symbol ∨ (id, symbol) ∈ f.assignedBy resolver patch)) →
        ∃ id, f.hot id = true ∧ (lastSymbol (f.assignedBy resolver patch) id = some symbol ∨
          lastSymbol (f.assignedBy resolver patch) id = none ∧ patch.snapshot = false ∧ f.nativeById id = symbol)

theorem lastSymbol_cons (id symbol own : String) (facts : List (String × String)) :
    lastSymbol ((id, symbol) :: facts) own =
      (lastSymbol facts own).or (if id = own then some symbol else none) := by
  unfold lastSymbol
  grind

theorem mem_of_lastSymbol {facts : List (String × String)} {id symbol : String}
    (h : lastSymbol facts id = some symbol) : (id, symbol) ∈ facts := by
  obtain ⟨⟨own, _⟩, hfind, rfl⟩ := Option.map_eq_some_iff.mp h
  grind

/-- The first pair of a patch is answered from the cache, and its answer is cached for the others. -/
theorem assigned_cons (resolver : Resolver) (cache : String → Option (Option String)) (pair : Identity × String)
    (rest : List (Identity × String)) {answer : Option String}
    (hanswer : (cache (resolutionKey pair)).getD (resolver pair.2 pair.1.nativeSymbol pair.1.nativeId) = answer) :
    assigned resolver cache (pair :: rest) =
      (answer.map (·, pair.1.nativeSymbol)).toList ++
        assigned resolver (update cache (resolutionKey pair) (some answer)) rest := by
  have hfirst : assignedId resolver cache (pair :: rest) pair = answer := by
    simpa [assignedId] using hanswer
  have hlater : assignedId resolver cache (pair :: rest) =
      assignedId resolver (update cache (resolutionKey pair) (some answer)) rest := by
    funext later
    unfold assignedId
    rw [update_apply, List.find?_cons]
    by_cases hkey : resolutionKey later = resolutionKey pair
    · grind
    · simp [hkey, Ne.symm hkey]
  rw [assigned, List.filterMap_cons, hfirst, hlater, ← assigned]
  cases answer <;> rfl

theorem resolve_kept (f:Feed) (rsl:Resolver) (rpr:String) (fact:Identity):
 let g:=(f.resolve rsl rpr fact).1
 g.hot=f.hot∧g.native=f.native∧g.nativeById=f.nativeById:=by
 grind [Feed.resolve]

/-- What a visit of pairs leaves of the feed, given the ids it assigned. -/
structure Visited (f g : Feed) (facts : List (String × String)) : Prop where
  hot : g.hot = f.hot
  native : ∀ symbol ≠ "", g.native symbol = true ↔
    f.native symbol = true ∨ ∃ id, f.hot id = true ∧ (id, symbol) ∈ facts
  mapped : ∀ id, g.nativeById id = (lastSymbol facts id).getD (f.nativeById id)

theorem setNative_native (f:Feed) {sym other:String} (hoth:other≠"") (act:Bool):
 (f.setNative sym act).native other=if other=sym then act else f.native other:=by
 unfold Feed.setNative
 split
 next h=>rw[h,if_neg hoth]
 grind

theorem setNative_kept (f:Feed) (sym:String) (act:Bool):
 (f.setNative sym act).hot=f.hot∧(f.setNative sym act).nativeById=f.nativeById:=by
 grind [Feed.setNative]

theorem visited_map {f g:Feed} {id symbol:String} {fct:List (String×String)} (h:Visited (f.map id symbol) g fct):
 Visited f g ((id,symbol)::fct):=by
 have hkept:(f.map id symbol).hot=f.hot∧(f.map id symbol).nativeById=update f.nativeById id symbol:=by
  grind [Feed.map,setNative_kept]
 have hnat:∀ oth≠"",(f.map id symbol).native oth=true ↔ f.native oth=true∨f.hot id=true∧oth=symbol:=by
  grind [Feed.map,setNative_native]
 refine ⟨h.hot.trans hkept.1,fun oth hoth=>?_,fun own=>?_⟩
 · rw[h.native oth hoth,hnat oth hoth,hkept.1]
   grind
 · rw[h.mapped own,hkept.2,lastSymbol_cons,update_apply]
   cases lastSymbol fct own with
   | some _=>rfl
   | none=>by_cases hown:id=own<;>simp[hown,Ne.symm]

theorem visit_visited (rsl:Resolver) (f:Feed) (prs:List (Identity×String)):
 Visited f (f.visit rsl prs).1 (f.visit rsl prs).2:=by
 induction prs generalizing f with
 | nil=>exact ⟨rfl,by simp[Feed.visit],fun _=>rfl⟩
 | cons pair rest ih=>
  obtain ⟨fact,rpr⟩:=pair
  obtain ⟨hhot,hnat,hmapp⟩:=resolve_kept f rsl rpr fact
  rw[Feed.visit]
  split
  next own hres=>
   rw[hres] at hhot hnat hmapp
   exact ⟨(ih own).hot.trans hhot,hhot▸hnat▸(ih own).native,hmapp▸(ih own).mapped⟩
  next own id hres=>
   rw[hres] at hhot hnat hmapp
   have hvis:=visited_map (ih (own.map id fact.nativeSymbol))
   exact ⟨hvis.hot.trans hhot,hhot▸hnat▸hvis.native,hmapp▸hvis.mapped⟩

theorem visit_facts (resolver : Resolver) (f : Feed) (pairs : List (Identity × String)) :
    (f.visit resolver pairs).2 = assigned resolver f.resolved pairs := by
  induction pairs generalizing f with
  | nil => rfl
  | cons pair rest ih =>
    have hresolve : f.resolve resolver pair.2 pair.1 =
        ({f with
            resolved := update f.resolved (resolutionKey pair) (some (f.resolve resolver pair.2 pair.1).2)},
          (f.resolve resolver pair.2 pair.1).2) ∧
        (f.resolved (resolutionKey pair)).getD (resolver pair.2 pair.1.nativeSymbol pair.1.nativeId) =
          (f.resolve resolver pair.2 pair.1).2 := by
      unfold Feed.resolve resolutionKey
      dsimp only
      cases hcached : f.resolved (derivativeResolutionKey pair.2 pair.1) with
      | some answer =>
        refine ⟨?_, rfl⟩
        rw [← hcached, update_eq_self, hcached]
      | none => exact ⟨rfl, rfl⟩
    rw [assigned_cons resolver f.resolved pair rest hresolve.2, Feed.visit, hresolve.1]
    grind [Feed.map,Feed.setNative]

theorem agrees_setHot_iff {f:Feed} (h:f.Agrees) (id:String) (act:Bool):
 (f.setHotInstrument id act).Agrees ↔ f.Kept (.setHot id act):=by
 unfold Feed.setHotInstrument
 by_cases hid:id=""
 · rw[if_pos hid]
   exact iff_of_true h (.inr (.inl hid))
 rw[if_neg hid]
 let g : Feed:={f with hot:=update f.hot id act}
 obtain ⟨hhot,hmap⟩:=setNative_kept g (f.nativeById id) act
 have hwan:∀ symbol,(g.setNative (f.nativeById id) act).Wanted symbol ↔
   (act=true∧f.nativeById id=symbol)∨∃ oth≠id,f.hot oth=true∧f.nativeById oth=symbol:=by
  intro symbol
  simp only[Feed.Wanted,hhot,hmap,g,update_apply]
  grind
 have hwas:∀ symbol,f.Wanted symbol ↔
   (f.hot id=true∧f.nativeById id=symbol)∨∃ oth≠id,f.hot oth=true∧f.nativeById oth=symbol:=by
  intro symbol
  simp only[Feed.Wanted]
  grind
 have hnat:∀ symbol≠"",(g.setNative (f.nativeById id) act).native symbol =
  if symbol=f.nativeById id then act else f.native symbol:=fun symbol hsym=>setNative_native g hsym act
 constructor
 · intro hagr
   by_cases hunm:f.nativeById id=""
   · exact .inr (.inr (.inl hunm))
   cases act with
   | true=>exact .inl rfl
   | false=>
    refine .inr (.inr (.inr fun oth hoth hhot hsame=>?_))
    have hagre:=hagr _ hunm
    rw[hnat _ hunm,if_pos rfl,hwan] at hagre
    exact absurd (hagre.mpr (.inr ⟨oth,hoth,hhot,hsame⟩)) (by decide)
 · intro hkept symbol hsym
   rw[hnat symbol hsym,hwan]
   have hagre:=h symbol hsym
   rw[hwas] at hagre
   rcases hkept with rfl | hnil | hunm | halo
   all_goals grind

theorem reset_keeps (f : Feed) (snapshot : Bool) :
    (f.reset snapshot).hot = f.hot ∧ (f.reset snapshot).native = f.native ∧
    (f.reset snapshot).resolved = (if snapshot then fun _ => none else f.resolved) ∧
    ∀ id, (f.reset snapshot).nativeById id = if snapshot then "" else f.nativeById id := by
  unfold Feed.reset
  split <;> exact ⟨rfl, rfl, rfl, fun _ => rfl⟩

section
variable {f next : Feed} {snapshot : Bool} {facts : List (String × String)} {symbol : String}

theorem native_of_visited (h : f.Agrees) (hvisited : Visited (f.reset snapshot) next facts) (hsymbol : symbol ≠ "") :
    next.native symbol = true ↔ ∃ id, f.hot id = true ∧ (f.nativeById id = symbol ∨ (id, symbol) ∈ facts) := by
  obtain ⟨hhot, hnative, -, -⟩ := reset_keeps f snapshot
  rw [hvisited.native symbol hsymbol, hhot, hnative, h symbol hsymbol, Feed.Wanted, ← exists_or]
  simp only [and_or_left]

theorem wanted_of_visited (hvisited : Visited (f.reset snapshot) next facts) (hsymbol : symbol ≠ "") :
    next.Wanted symbol ↔ ∃ id, f.hot id = true ∧ (lastSymbol facts id = some symbol ∨
      lastSymbol facts id = none ∧ snapshot = false ∧ f.nativeById id = symbol) := by
  obtain ⟨hhot, -, -, hmapped⟩ := reset_keeps f snapshot
  refine exists_congr fun id => ?_
  rw [hvisited.hot, hhot, hvisited.mapped, hmapped]
  refine and_congr_right fun _ => ?_
  cases lastSymbol facts id with
  | some own => simp
  | none => cases snapshot <;> simp [Ne.symm hsymbol]

end

theorem agrees_project_iff {f : Feed} (h : f.Agrees) (resolver : Resolver) (patch : Patch) :
    (f.project resolver patch).1.Agrees ↔ f.Kept (.project resolver patch) := by
  by_cases hdown : f.routeProfiles = [] ∨ f.nativeFamily = ""
  · have hsame : (f.project resolver patch).1 = f := by rw [Feed.project, if_pos hdown]
    exact iff_of_true (hsame.symm ▸ h) (.inl (hdown.imp_right .inl))
  cases hinvalid : patch.invalid with
  | some message =>
    have hsame : (f.project resolver patch).1 = f := by rw [Feed.project, if_neg hdown, hinvalid]
    exact iff_of_true (hsame.symm ▸ h) (.inl (by simp [hinvalid]))
  | none =>
    have hvisited : Visited (f.reset patch.snapshot) (f.project resolver patch).1 (f.assignedBy resolver patch) := by
      have hnext := visit_visited resolver (f.reset patch.snapshot) (f.pairs patch)
      rw [visit_facts, (reset_keeps f _).2.2.1] at hnext
      rw [Feed.project, if_neg hdown, hinvalid]
      exact hnext
    constructor
    · intro hagrees
      refine .inr fun symbol hsymbol htouched => ?_
      exact (wanted_of_visited hvisited hsymbol).mp
        ((hagrees symbol hsymbol).mp ((native_of_visited h hvisited hsymbol).mpr htouched))
    · intro hkept symbol hsymbol
      rw [native_of_visited h hvisited hsymbol, wanted_of_visited hvisited hsymbol]
      refine ⟨hkept.resolve_left (by simp_all) symbol hsymbol, ?_⟩
      rintro ⟨id, hhot, hlast | ⟨-, -, hold⟩⟩
      all_goals grind [mem_of_lastSymbol]

theorem agrees_step_iff {f:Feed} (h:f.Agrees) (e:Event):(∀ g,step f e=some g→ g.Agrees) ↔ f.Kept e:=by
 cases e with
 | setHot id act=>simpa[step] using agrees_setHot_iff h id act
 | project rsl ptc=>simpa[step] using agrees_project_iff h rsl ptc

/-- Every call keeps the hot symbols of the native feed equal to those of the hot ids exactly when every call
is of the kind `Feed.Kept` names. -/
theorem hot_symbols_agree_iff (routeProfiles:List String) (nativeFamily:String) (events:List Event):
 Along step (fun f e=>∀ g,step f e=some g→ g.Agrees) {routeProfiles,nativeFamily} events ↔
  Along step Feed.Kept {routeProfiles,nativeFamily} events:=by
 refine along_congr_of_invariant Feed.Agrees (fun f e g _ hok hstep=>hok g hstep) (fun f e _ h=>agrees_step_iff h e) ?_
 intro symbol hsym
 simp[Feed.Wanted]

namespace Scenario

def listed:Event:=.project (fun routeProfile _ _=>some (routeProfile ++ ":BTC")) {snapshot:=true,facts:=[{nativeSymbol:="BTCUSDT" }]}
def fresh:Feed:={routeProfiles:=["spot","perp"],nativeFamily:="linear" }

theorem shared_symbol_goes_cold :
 ((run step fresh [listed,.setHot "spot:BTC" true,.setHot "perp:BTC" true,.setHot "spot:BTC" false]).map fun f=>
  (f.native "BTCUSDT",f.hot "perp:BTC",f.nativeById "perp:BTC"))=some (false,true,"BTCUSDT"):=by decide +kernel

end Scenario

end BolterTrader.Adapters.DerivativeFeed
