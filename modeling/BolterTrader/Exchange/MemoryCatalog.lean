import BolterTrader.Exchange.Orders
import BolterTrader.Foundations.Fallible
import BolterTrader.Foundations.ListIndex
import BolterTrader.Foundations.Transition

/-! The instrument catalog of the exchange layer (`MemoryCatalog` in `exchange/catalog.go`):
snapshots of instruments by scope, loaded from a store or a loader, published with a
generation and three indexes, and kept when a later load fails. -/
namespace BolterTrader.Exchange.MemoryCatalog
open Foundations Foundations.Fallible Foundations.Transition List

/-! ## Snapshots and their indexes -/

structure CatalogScope where
 venue:Venue:=.unset
 environment:String:=""
 product:Product:=.unset
 settlement:String:=""
 nameSpace:String:=""
 endpointFingerprint:String:=""
 deriving DecidableEq

structure InstrumentQuery where
 symbol:String:=""
 nativeSymbol:String:=""
 nativeId:String:=""

structure CatalogIndexes where
 bySymbol:String→Option ℕ:=fun _=>none
 byNativeSymbol:String→Option ℕ:=fun _=>none
 byNativeId:String→Option ℕ:=fun _=>none

structure InstrumentSnapshot where
 schemaVersion:Int:=0
 scope:CatalogScope:={}
 revision:String:=""
 generation:UInt64:=0
 loadedAt:Timestamp:=none
 instruments:List Instrument:=[]
 indexes:CatalogIndexes:={}

def invalidCatalog (message:String):Error:=
 {kind:=.invalidConfig,details:={operation:="InstrumentCatalog",safeMessage:=message}}

def metadataResolutionError (scope:CatalogScope) (message:String):Error:=
 { kind:=.metadataResolution
   details:=
    {venue:=scope.venue,product:=scope.product,operation:="InstrumentCatalog.Resolve",safeMessage:=message}}

def addCatalogIndex (index:String→Option ℕ) (key:String) (value:ℕ) (message:String):
  Except Error (String→Option ℕ):=do
 refuse (GoText.trimSpace key="") (invalidCatalog "empty catalog index key")
 refuse ((index (GoText.trimSpace key)).isSome) (invalidCatalog message)
 return Function.update index (GoText.trimSpace key) (some value)

def addNativeId (index:String→Option ℕ) (nativeId:String) (value:ℕ):Except Error (String→Option ℕ):=
 if nativeId≠"" then addCatalogIndex index nativeId value "duplicate native id" else .ok index

def indexNext (scope:CatalogScope) (indexes:CatalogIndexes) (index:ℕ) (instrument:Instrument):
  Except Error CatalogIndexes:=do
 check instrument.validate
 let identity:=instrument.identity
 refuse (identity.venue≠scope.venue∨identity.product≠scope.product)
  (invalidCatalog "instrument identity does not match catalog scope")
 refuse (scope.settlement≠""∧identity.settleAsset≠""∧identity.settleAsset≠scope.settlement)
  (invalidCatalog "instrument settlement does not match catalog scope")
 let bySymbol ← addCatalogIndex indexes.bySymbol identity.symbol index "duplicate canonical symbol"
 let byNativeSymbol ← addCatalogIndex indexes.byNativeSymbol identity.nativeSymbol index "duplicate native symbol"
 let byNativeId ← addNativeId indexes.byNativeId identity.nativeId index
 return ⟨bySymbol,byNativeSymbol,byNativeId⟩

def indexFrom (scope:CatalogScope) (indexes:CatalogIndexes) (index:ℕ):
  List Instrument→Except Error CatalogIndexes
 | []=>return indexes
 | instrument::rest=>do
  let indexes ← indexNext scope indexes index instrument
  indexFrom scope indexes (index+1) rest

def buildCatalogIndexes (scope:CatalogScope) (instruments:List Instrument):Except Error CatalogIndexes:=
 indexFrom scope {} 0 instruments

/-! ## Resolving a query -/

def lookup (scope:CatalogScope) (index second third:String→Option ℕ) (key:String):Except Error ℕ:=do
 let place ← required (metadataResolutionError scope "instrument metadata not found") (index key)
 refuse ((second key).any (· ≠ place))
  (metadataResolutionError scope "instrument query key is ambiguous across indexes")
 refuse ((third key).any (· ≠ place))
  (metadataResolutionError scope "instrument query key is ambiguous across indexes")
 return place

def countKey (key:String):ℕ:=if GoText.trimSpace key≠"" then 1 else 0

def InstrumentQuery.keys (query:InstrumentQuery):ℕ:=
 countKey query.symbol+countKey query.nativeSymbol+countKey query.nativeId

def resolveIndex (scope:CatalogScope) (indexes:CatalogIndexes) (query:InstrumentQuery):Except Error ℕ:=do
 let symbol:=GoText.trimSpace query.symbol
 let nativeSymbol:=GoText.trimSpace query.nativeSymbol
 refuse (query.keys=0) (invalidRequest "instrument query requires exactly one identity key")
 refuse (1<query.keys) (invalidRequest "instrument query is ambiguous")
 if symbol≠"" then lookup scope indexes.bySymbol indexes.byNativeSymbol indexes.byNativeId symbol
 else if nativeSymbol≠"" then lookup scope indexes.byNativeSymbol indexes.bySymbol indexes.byNativeId nativeSymbol
 else lookup scope indexes.byNativeId indexes.bySymbol indexes.byNativeSymbol (GoText.trimSpace query.nativeId)

/-! ## The catalog -/

structure LoadError where
 exchange:Option Error:=none
 typeName:String:="*exchange.Error"

def LoadError.own (err:Error):LoadError:={exchange:=some err}
def safeCatalogError (err:LoadError):String:=(err.exchange.map Error.text).getD err.typeName

structure Config where
 loader:Bool
 store:Bool
 snapshotRevision:Int→CatalogScope→List Instrument→String

structure Catalog where
 data:CatalogScope→Option InstrumentSnapshot:=fun _=>none
 errs:CatalogScope→Option String:=fun _=>none
 srcs:CatalogScope→Option String:=fun _=>none
 next:UInt64:=0

structure Answers where
 stored:Except LoadError (Option InstrumentSnapshot):=.ok none
 loaded:Except LoadError InstrumentSnapshot
 saved:Option LoadError:=none
 now:Int

structure Outcome where
 catalog:Catalog
 snapshot:InstrumentSnapshot:={}
 err:Option LoadError:=none

namespace Catalog

def rememberError (c:Catalog) (scope:CatalogScope) (err:LoadError):Catalog:=
 {c with errs:=Function.update c.errs scope (some (safeCatalogError err))}

def lastKnownGoodOrError (c:Catalog) (scope:CatalogScope) (err:LoadError):Outcome:=
 {catalog:=c,snapshot:=(c.data scope).getD {},err:=some err}

def prepare (config:Config) (scope:CatalogScope) (now:Int) (snapshot:InstrumentSnapshot):
  Except Error InstrumentSnapshot:=do
 refuse (snapshot.scope≠scope) (invalidCatalog "snapshot scope does not match requested scope")
 let schemaVersion:=if snapshot.schemaVersion=0 then 1 else snapshot.schemaVersion
 let indexes ← buildCatalogIndexes scope snapshot.instruments
 return {snapshot with
  schemaVersion,indexes
  loadedAt:=snapshot.loadedAt.or (some now)
  revision:=config.snapshotRevision schemaVersion snapshot.scope snapshot.instruments}

def publish (config:Config) (c:Catalog) (scope:CatalogScope) (now:Int) (snapshot:InstrumentSnapshot):
 Outcome:=
 match prepare config scope now snapshot with
 | .error err=>{catalog:=c,err:=some (.own err)}
 | .ok prepared=>
  let published:={prepared with generation:=c.next+1}
  { catalog:=
     {c with
       next:=c.next+1
       data:=Function.update c.data scope (some published)
       errs:=Function.update c.errs scope none}
    snapshot:=published}

def loadFromLoader (config:Config) (answers:Answers) (c:Catalog) (scope:CatalogScope):Outcome:=
 if ¬config.loader∧c.srcs scope=none then
  let err:=LoadError.own (metadataResolutionError scope "instrument loader is not configured")
  (c.rememberError scope err).lastKnownGoodOrError scope err
 else match answers.loaded with
  | .error err=>(c.rememberError scope err).lastKnownGoodOrError scope err
  | .ok loaded=>
   let outcome:=c.publish config scope answers.now loaded
   match outcome.err,answers.saved with
   | some err,_=>(outcome.catalog.rememberError scope err).lastKnownGoodOrError scope err
   | none,some err=>
    if config.store then {outcome with catalog:=outcome.catalog.rememberError scope err} else outcome
   | none,none=>outcome

def loadAndPublish (config:Config) (answers:Answers) (c:Catalog) (scope:CatalogScope) (force:Bool):
 Outcome:=
 if ¬force∧config.store then
  match answers.stored with
  | .error err=>(c.rememberError scope err).loadFromLoader config answers scope
  | .ok (some stored)=>c.publish config scope answers.now stored
  | .ok none=>c.loadFromLoader config answers scope
 else c.loadFromLoader config answers scope

def snapshot (config:Config) (answers:Answers) (c:Catalog) (scope:CatalogScope):Outcome:=
 match c.data scope with
 | some snapshot=>{catalog:=c,snapshot}
 | none=>
  let outcome:=c.loadAndPublish config answers scope false
  if outcome.err=none then outcome else {outcome with snapshot:={}}

def refresh (config:Config) (answers:Answers) (c:Catalog) (scope:CatalogScope):Outcome:=
 c.loadAndPublish config answers scope true

def resolve (config:Config) (answers:Answers) (c:Catalog) (scope:CatalogScope) (query:InstrumentQuery):
 Catalog×Except LoadError (Option Instrument):=
 let outcome:=c.snapshot config answers scope
 (outcome.catalog,
  match outcome.err with
  | some err=>.error err
  | none=>match resolveIndex scope outcome.snapshot.indexes query with
   | .error err=>.error (.own err)
   | .ok index=>.ok outcome.snapshot.instruments[index]?)

def registerSource (c:Catalog) (scope:CatalogScope) (fingerprint:Except Error String):
 Catalog×Option Error:=
 match fingerprint,c.srcs scope with
 | .error err,_=>(c,some err)
 | .ok fingerprint,some current=>
  if current=fingerprint then (c,none)
  else (c,some (invalidCatalog "instrument source registration conflicts with existing scope"))
 | .ok fingerprint,none=>({c with srcs:=Function.update c.srcs scope (some fingerprint)},none)

end Catalog

/-! ## Runs -/

inductive Event where
 | registerSource (scope:CatalogScope) (fingerprint:Except Error String)
 | snapshot (scope:CatalogScope) (answers:Answers)
 | resolve (scope:CatalogScope) (query:InstrumentQuery) (answers:Answers)
 | refresh (scope:CatalogScope) (answers:Answers)

def step (config:Config) (c:Catalog):Event→Option Catalog
 | .registerSource scope fingerprint=>some (c.registerSource scope fingerprint).1
 | .snapshot scope answers=>some (c.snapshot config answers scope).catalog
 | .resolve scope query answers=>some (c.resolve config answers scope query).1
 | .refresh scope answers=>some (c.refresh config answers scope).catalog

/-! ## What the indexes hold -/

def symbolKey (instrument:Instrument):Option String:=some (GoText.trimSpace instrument.identity.symbol)
def nativeSymbolKey (instrument:Instrument):Option String:=some (GoText.trimSpace instrument.identity.nativeSymbol)

def nativeIdKey (instrument:Instrument):Option String:=
 if instrument.identity.nativeId≠"" then some (GoText.trimSpace instrument.identity.nativeId) else none

structure Built (instruments:List Instrument) (indexes:CatalogIndexes):Prop where
 symbol:Indexes symbolKey instruments indexes.bySymbol
 nativeSymbol:Indexes nativeSymbolKey instruments indexes.byNativeSymbol
 nativeId:Indexes nativeIdKey instruments indexes.byNativeId

section
variable {scope:CatalogScope} {done rest:List Instrument} {instrument:Instrument} {indexes indexes':CatalogIndexes}

theorem addCatalogIndex_indexes {field:Instrument→Option String} {index index':String→Option ℕ}
 {key message:String} (h:Indexes field done index) (hfie:field instrument=some (GoText.trimSpace key))
 (hadd:addCatalogIndex index key done.length message=.ok index'):
 Indexes field (done++[instrument]) index':=by
 have hadd:=past hadd
 obtain ⟨_,hnew,hadd⟩:=bind_eq_ok hadd
 cases hadd
 have hnone:index (GoText.trimSpace key)=none:=by simpa using refuse_eq_ok hnew
 exact h.concat_some hfie hnone

theorem indexNext_built (h:Built done indexes) (hnext:indexNext scope indexes done.length instrument=.ok indexes'):
 Built (done++[instrument]) indexes':=by
 have hnext:=past (past (past hnext))
 obtain ⟨bySymbol,hsym,hnext⟩:=bind_eq_ok hnext
 obtain ⟨byNativeSymbol,hnat,hnext⟩:=bind_eq_ok hnext
 obtain ⟨byNativeId,hid,hnext⟩:=bind_eq_ok hnext
 cases hnext
 refine ⟨addCatalogIndex_indexes h.symbol rfl hsym,addCatalogIndex_indexes h.nativeSymbol rfl hnat,?_⟩
 unfold addNativeId at hid
 split at hid
 · next hpre=>exact addCatalogIndex_indexes h.nativeId (if_pos hpre) hid
 · next habs=>
   cases hid
   exact h.nativeId.concat_none (if_neg habs)

theorem indexFrom_built (h:Built done indexes) (hfrom:indexFrom scope indexes done.length rest=.ok indexes'):
 Built (done++rest) indexes':=by
 induction rest generalizing done indexes with
 | nil=>
  cases hfrom
  rw[append_nil]
  exact h
 | cons instrument rest ih=>
  obtain ⟨between,hnext,hfrom⟩:=bind_eq_ok hfrom
  have hbet:=indexNext_built h hnext
  grind

theorem buildCatalogIndexes_built {instruments:List Instrument}
 (h:buildCatalogIndexes scope instruments=.ok indexes):Built instruments indexes:=by
 have hnil:Built [] {}:=⟨Indexes.nil,Indexes.nil,Indexes.nil⟩
 exact indexFrom_built hnil h

end

/-! ## Matches of a query -/

def HasKey (instrument:Instrument) (key:String):Prop:=
 symbolKey instrument=some key∨nativeSymbolKey instrument=some key∨nativeIdKey instrument=some key

def InstrumentQuery.Matches (query:InstrumentQuery) (instrument:Instrument):Prop:=
 ∃ key∈[query.symbol,query.nativeSymbol,query.nativeId],GoText.trimSpace key≠""∧
  HasKey instrument (GoText.trimSpace key)

structure InstrumentQuery.Describes (query:InstrumentQuery) (instrument:Instrument):Prop where
 symbol:GoText.trimSpace query.symbol≠"" → symbolKey instrument=some (GoText.trimSpace query.symbol)
 nativeSymbol:GoText.trimSpace query.nativeSymbol≠"" →
  nativeSymbolKey instrument=some (GoText.trimSpace query.nativeSymbol)
 nativeId:GoText.trimSpace query.nativeId≠"" → nativeIdKey instrument=some (GoText.trimSpace query.nativeId)

structure OnlyMatch (query:InstrumentQuery) (instruments:List Instrument) (place:ℕ) (instrument:Instrument):
  Prop where
 at_place:instruments[place]?=some instrument
 describes:query.Describes instrument
 fits:query.Matches instrument
 only:∀ {other found},instruments[other]?=some found→ query.Matches found→ other=place

section
variable {scope:CatalogScope} {instruments:List Instrument} {indexes:CatalogIndexes} {query:InstrumentQuery}
 {place:ℕ} {key:String}

theorem any_ne_eq_false_iff (index:String→Option ℕ):
 ¬(index key).any (· ≠ place)=true ↔ ∀ other,index key=some other→ other=place:=by
 cases index key with
 | none=>simp
 | some=>simp

theorem lookup_eq_ok {index second third:String→Option ℕ} (h:lookup scope index second third key=.ok place):
 index key=some place∧(∀ other,second key=some other→ other=place)∧
  ∀ other,third key=some other→ other=place:=by
 obtain ⟨found,hfd,h⟩:=bind_eq_ok h
 obtain ⟨_,hsec,h⟩:=bind_eq_ok h
 obtain ⟨_,hthi,h⟩:=bind_eq_ok h
 cases h
 exact ⟨required_eq_ok hfd,(any_ne_eq_false_iff second).mp (refuse_eq_ok hsec),
  (any_ne_eq_false_iff third).mp (refuse_eq_ok hthi)⟩

theorem Built.hasKey_iff (h:Built instruments indexes) {instrument:Instrument}
 (hplace:instruments[place]?=some instrument):
 HasKey instrument key ↔ indexes.bySymbol key=some place∨indexes.byNativeSymbol key=some place∨
  indexes.byNativeId key=some place:=by
 rw[h.symbol key place,h.nativeSymbol key place,h.nativeId key place]
 simp[hplace,HasKey]

theorem countKey_eq_zero_iff:countKey key=0 ↔ GoText.trimSpace key="" := by
 unfold countKey
 split<;>simp_all

theorem Built.onlyMatch (h:Built instruments indexes) (key:String)
 (hmat:∀ found,query.Matches found ↔ HasKey found key)
 (hdes:∀ found,instruments[place]?=some found→ query.Describes found)
 (hplace:indexes.bySymbol key=some place∨indexes.byNativeSymbol key=some place∨
  indexes.byNativeId key=some place)
 (hsym:∀ other,indexes.bySymbol key=some other→ other=place)
 (hnat:∀ other,indexes.byNativeSymbol key=some other→ other=place)
 (hid:∀ other,indexes.byNativeId key=some other→ other=place):
 ∃ instrument,OnlyMatch query instruments place instrument:=by
 have hexi:∃ instrument,instruments[place]?=some instrument:=by
  obtain hp | hp | hp:=hplace
  · obtain ⟨instrument,hat,-⟩:=(h.symbol key place).mp hp
    exact ⟨instrument,hat⟩
  · obtain ⟨instrument,hat,-⟩:=(h.nativeSymbol key place).mp hp
    exact ⟨instrument,hat⟩
  · obtain ⟨instrument,hat,-⟩:=(h.nativeId key place).mp hp
    exact ⟨instrument,hat⟩
 obtain ⟨instrument,hat⟩:=hexi
 refine ⟨instrument,hat,hdes instrument hat,(hmat instrument).mpr ((h.hasKey_iff hat).mpr hplace),?_⟩
 intro other found hoth hfd
 obtain hp | hp | hp:=(h.hasKey_iff hoth).mp ((hmat found).mp hfd)
 all_goals grind

theorem Built.resolveIndex_only (h:Built instruments indexes) (hok:resolveIndex scope indexes query=.ok place):
 ∃ instrument,OnlyMatch query instruments place instrument:=by
 obtain ⟨_,hnone,hok⟩:=bind_eq_ok hok
 obtain ⟨_,hmany,hok⟩:=bind_eq_ok hok
 have hone:countKey query.symbol+countKey query.nativeSymbol+countKey query.nativeId=1:=by
  grind [refuse_eq_ok,InstrumentQuery.keys]
 have hbla (key:String) (hzero:countKey key=0):GoText.trimSpace key="" := countKey_eq_zero_iff.mp hzero
 have hunique (index:String→Option ℕ) (key:String) (hind:index key=some place) (other:ℕ)
  (hoth:index key=some other):other=place:=Option.some.inj (hoth.symm.trans hind)
 by_cases hsym:GoText.trimSpace query.symbol=""
 · by_cases hnat:GoText.trimSpace query.nativeSymbol=""
   · have hid:GoText.trimSpace query.nativeId≠"" := by
      intro hid
      rw[countKey_eq_zero_iff.mpr hsym,countKey_eq_zero_iff.mpr hnat,countKey_eq_zero_iff.mpr hid] at hone
      omega
     simp only[hsym,hnat,ne_eq,not_true_eq_false,if_false] at hok
     obtain ⟨hplace,hsymb,hnati⟩:=lookup_eq_ok hok
     refine h.onlyMatch (GoText.trimSpace query.nativeId) ?_ ?_ (.inr (.inr hplace)) hsymb hnati
      (hunique _ _ hplace)
     · intro found
       simp[InstrumentQuery.Matches,hsym,hnat,hid]
     · intro found hat
       exact ⟨fun hne=>absurd hsym hne,fun hne=>absurd hnat hne,fun _=>h.nativeId.field_eq hplace hat⟩
   · have hct:countKey query.nativeSymbol=1:=if_pos hnat
     have hid:=hbla query.nativeId (by omega)
     simp only[hsym,hnat,ne_eq,not_true_eq_false,not_false_eq_true,if_false,if_true] at hok
     obtain ⟨hplace,hsymb,hids⟩:=lookup_eq_ok hok
     refine h.onlyMatch (GoText.trimSpace query.nativeSymbol) ?_ ?_ (.inr (.inl hplace)) hsymb
      (hunique _ _ hplace) hids
     · intro found
       simp[InstrumentQuery.Matches,hsym,hnat,hid]
     · intro found hat
       exact ⟨fun hne=>absurd hsym hne,fun _=>h.nativeSymbol.field_eq hplace hat,fun hne=>absurd hid hne⟩
 · have hct:countKey query.symbol=1:=if_pos hsym
   have hnat:=hbla query.nativeSymbol (by omega)
   have hid:=hbla query.nativeId (by omega)
   simp only[hsym,ne_eq,not_false_eq_true,if_true] at hok
   obtain ⟨hplace,hnati,hids⟩:=lookup_eq_ok hok
   refine h.onlyMatch (GoText.trimSpace query.symbol) ?_ ?_ (.inl hplace) (hunique _ _ hplace) hnati hids
   · intro found
     simp[InstrumentQuery.Matches,hsym,hnat,hid]
   · intro found hat
     exact ⟨fun _=>h.symbol.field_eq hplace hat,fun hne=>absurd hnat hne,fun hne=>absurd hid hne⟩

end

/-! ## What a load can do -/

inductive Loaded (config:Config) (c:Catalog) (scope:CatalogScope) (outcome:Outcome):Prop where
 | failed (err:LoadError) (herr:outcome.err=some err) (hdata:outcome.catalog.data=c.data)
  (hnext:outcome.catalog.next=c.next)
 | published (now:Int) (source prepared:InstrumentSnapshot)
  (hprepare:Catalog.prepare config scope now source=.ok prepared) (herr:outcome.err=none)
  (hsnapshot:outcome.snapshot = {prepared with generation:=c.next+1})
  (hdata:outcome.catalog.data=Function.update c.data scope (some outcome.snapshot))
  (hnext:outcome.catalog.next=c.next+1)

section
variable {config:Config} {c c':Catalog} {scope:CatalogScope} {outcome:Outcome}

theorem Loaded.congr (h:Loaded config c' scope outcome) (hdata:c'.data=c.data) (hnext:c'.next=c.next):
 Loaded config c scope outcome:=by
 cases h with
 | failed err herr hdata' hnext'=>exact .failed err herr (hdata'.trans hdata) (hnext'.trans hnext)
 | published now source prepared hpre herr hsn hdata' hnext'=>
  rw[hdata] at hdata'
  rw[hnext] at hsn hnext'
  exact .published now source prepared hpre herr hsn hdata' hnext'

theorem publish_loaded (config:Config) (c:Catalog) (scope:CatalogScope) (now:Int) (source:InstrumentSnapshot):
 Loaded config c scope (c.publish config scope now source):=by
 unfold Catalog.publish
 split
 next err _=>exact .failed (.own err) rfl rfl rfl
 next prepared hpre=>exact .published now source prepared hpre rfl rfl rfl rfl

theorem loadFromLoader_loaded (config:Config) (answers:Answers) (c:Catalog) (scope:CatalogScope):
 Loaded config c scope (c.loadFromLoader config answers scope):=by
 unfold Catalog.loadFromLoader
 split
 · exact .failed _ rfl rfl rfl
 · split
   next err _=>exact .failed err rfl rfl rfl
   next loaded _=>
    have hloa:=publish_loaded config c scope answers.now loaded
    dsimp only
    split
    next err herr=>
     cases hloa with
     | failed _ _ hdata hnext=>exact .failed err rfl hdata hnext
     | published _ _ _ _ herr'=>cases herr.symm.trans herr'
    next err herr _=>
     split
     · -- the store did not take the snapshot, which stays published
       cases hloa with
       | failed _ herr'=>cases herr.symm.trans herr'
       | published now source prepared hpre _ hsn hdata hnext=>
        exact .published now source prepared hpre herr hsn hdata hnext
     · exact hloa
    next=>exact hloa

theorem loadAndPublish_loaded (config:Config) (answers:Answers) (c:Catalog) (scope:CatalogScope) (force:Bool):
 Loaded config c scope (c.loadAndPublish config answers scope force):=by
 unfold Catalog.loadAndPublish
 split
 · split
   next err _=>exact (loadFromLoader_loaded config answers (c.rememberError scope err) scope).congr rfl rfl
   next stored _=>exact publish_loaded config c scope answers.now stored
   next=>exact loadFromLoader_loaded config answers c scope
 · exact loadFromLoader_loaded config answers c scope

end

/-! ## What a run keeps -/

def Event.load (config:Config) (c:Catalog):Event→Option (CatalogScope×Outcome)
 | .registerSource _ _=>none
 | .snapshot scope answers | .resolve scope _ answers=>
  if (c.data scope).isSome then none else some (scope,c.loadAndPublish config answers scope false)
 | .refresh scope answers=>some (scope,c.loadAndPublish config answers scope true)

/-- What a call keeps and what a publication may change. -/
structure Keeps (config:Config) (c:Catalog) (event:Event) (next:Catalog):Prop where
 quiet:event.load config c=none→ next.data=c.data
 failed:∀ scope outcome err,event.load config c=some (scope,outcome)→ outcome.err=some err →
  next.data=c.data
 published:∀ scope outcome,event.load config c=some (scope,outcome)→ outcome.err=none →
  next.data=Function.update c.data scope (some outcome.snapshot)∧
   ∀ old,c.data scope=some old→ old.generation<outcome.snapshot.generation
 resolved:∀ scope query answers instrument,event=.resolve scope query answers →
  (c.resolve config answers scope query).2=.ok instrument →
   ∃ snapshot place found,next.data scope=some snapshot∧instrument=some found∧
    OnlyMatch query snapshot.instruments place found
 ambiguous:∀ scope query answers snapshot (place other:ℕ) found found',event=.resolve scope query answers →
  next.data scope=some snapshot→ snapshot.instruments[place]?=some found→ query.Matches found →
   snapshot.instruments[other]?=some found'→ query.Matches found'→ place≠other →
    ∃ err,(c.resolve config answers scope query).2=.error err

structure Good (c:Catalog):Prop where
 built:∀ {scope snapshot},c.data scope=some snapshot→Built snapshot.instruments snapshot.indexes
 bounded:∀ {scope snapshot},c.data scope=some snapshot→ snapshot.generation≤c.next

section
variable {config:Config} {c next:Catalog} {event:Event} {scope:CatalogScope} {outcome:Outcome}
 {answers:Answers} {query:InstrumentQuery}

theorem prepare_built {now:Int} {source prepared:InstrumentSnapshot}
 (h:Catalog.prepare config scope now source=.ok prepared):Built prepared.instruments prepared.indexes:=by
 obtain ⟨indexes,hind,h⟩:=bind_eq_ok (past h)
 cases h
 exact buildCatalogIndexes_built hind

theorem step_of_no_load (hload:event.load config c=none) (hstep:step config c event=some next):
 next.data=c.data∧next.next=c.next:=by
 cases event with
 | registerSource=>
  cases hstep
  unfold Catalog.registerSource
  grind
 | snapshot scope answers | resolve scope query answers=>
  cases hstep
  cases hdata : c.data scope with
  | none=>simp[Event.load,hdata] at hload
  | some snapshot=>simp[Catalog.resolve,Catalog.snapshot,hdata]
 | refresh=>cases hload

theorem step_of_load (hload:event.load config c=some (scope,outcome)) (hstep:step config c event=some next):
 Loaded config c scope outcome∧next.data=outcome.catalog.data∧next.next=outcome.catalog.next:=by
 cases event with
 | registerSource=>cases hload
 | snapshot scope answers | resolve scope query answers=>
  cases hstep
  cases hdata : c.data scope with
  | some=>simp[Event.load,hdata] at hload
  | none=>
   simp only[Event.load,hdata,Option.isSome_none,Bool.false_eq_true,if_false] at hload
   cases hload
   refine ⟨loadAndPublish_loaded config answers c _ false,?_⟩
   grind [Catalog.resolve,Catalog.snapshot]
 | refresh scope answers=>
  cases hstep
  cases hload
  exact ⟨loadAndPublish_loaded config answers c _ true,rfl,rfl⟩

theorem snapshot_published (answers:Answers) (h:(c.snapshot config answers scope).err=none):
 (c.snapshot config answers scope).catalog.data scope=some (c.snapshot config answers scope).snapshot:=by
 unfold Catalog.snapshot at h ⊢
 cases hdata : c.data scope with
 | some=>exact hdata
 | none=>
  simp only[hdata] at h ⊢
  cases loadAndPublish_loaded config answers c scope false with
  | failed err herr=>simp[herr] at h
  | published now source prepared hpre herr hsn hdata'=>rw[if_pos herr,hdata',Function.update_self]

theorem Good.of_step (h:Good c) (hroom:c.next.toNat+1<2^64) (hstep:step config c event=some next):
 Good next∧next.next.toNat≤c.next.toNat+1:=by
 have hsucc:(c.next+1).toNat=c.next.toNat+1:=by
  rw[UInt64.toNat_add]
  exact Nat.mod_eq_of_lt hroom
 have hqt (hdata:next.data=c.data) (hnext:next.next=c.next):
   Good next∧next.next.toNat≤c.next.toNat+1:=by
  refine ⟨⟨?_,?_⟩,by rw[hnext]; omega⟩
  · rw[hdata]
    exact h.built
  · rw[hdata,hnext]
    exact h.bounded
 cases hload : event.load config c with
 | none=>
  grind [step_of_no_load]
 | some pair=>
  obtain ⟨scope,outcome⟩:=pair
  obtain ⟨hloa,hdata,hnext⟩:=step_of_load hload hstep
  cases hloa with
  | failed err _ hdata' hnext'=>exact hqt (hdata.trans hdata') (hnext.trans hnext')
  | published now source prepared hpre _ hsn hdata' hnext'=>
   rw[hdata'] at hdata
   rw[hnext'] at hnext
   refine ⟨⟨?_,?_⟩,by rw[hnext,hsucc]⟩
   · intro other snapshot hsome
     rw[hdata] at hsome
     by_cases hoth:other=scope
     · grind [prepare_built]
     · rw[Function.update_of_ne hoth] at hsome
       exact h.built hsome
   · intro other snapshot hsome
     rw[hdata] at hsome
     rw[hnext]
     by_cases hoth:other=scope
     · grind
     · rw[Function.update_of_ne hoth] at hsome
       have hle:=UInt64.le_iff_toNat_le.mp (h.bounded hsome)
       rw[UInt64.le_iff_toNat_le,hsucc]
       omega

theorem Good.resolved (h:Good (c.resolve config answers scope query).1) {instrument:Option Instrument}
 (hok:(c.resolve config answers scope query).2=.ok instrument):
 ∃ snapshot place found,(c.resolve config answers scope query).1.data scope=some snapshot∧
  instrument=some found∧OnlyMatch query snapshot.instruments place found:=by
 unfold Catalog.resolve at h hok
 dsimp only at h hok
 split at hok
 · cases hok
 · next herr=>
   split at hok
   · cases hok
   · next place hplace=>
     have hpub:=snapshot_published answers herr
     obtain ⟨found,honly⟩:=(h.built hpub).resolveIndex_only hplace
     cases hok
     exact ⟨_,place,found,hpub,honly.at_place,honly⟩

theorem Good.keeps (h:Good c) (hroom:c.next.toNat+1<2^64) (hstep:step config c event=some next):
 Keeps config c event next:=by
 obtain ⟨hnext,-⟩:=h.of_step hroom hstep
 have hsucc:(c.next+1).toNat=c.next.toNat+1:=by
  rw[UInt64.toNat_add]
  exact Nat.mod_eq_of_lt hroom
 refine ⟨fun hload=>(step_of_no_load hload hstep).1,?_,?_,?_,?_⟩
 · intro scope outcome err hload herr
   obtain ⟨hloa,hdata,-⟩:=step_of_load hload hstep
   cases hloa with
   | failed _ _ hdata'=>exact hdata.trans hdata'
   | published _ _ _ _ herr'=>cases herr.symm.trans herr'
 · intro scope outcome hload herr
   obtain ⟨hloa,hdata,-⟩:=step_of_load hload hstep
   cases hloa with
   | failed _ herr'=>cases herr.symm.trans herr'
   | published now source prepared hpre _ hsn hdata' _=>
    refine ⟨hdata.trans hdata',?_⟩
    intro old hold
    have hle:=UInt64.le_iff_toNat_le.mp (h.bounded hold)
    rw[hsn,UInt64.lt_iff_toNat_lt,hsucc]
    omega
 · rintro scope query answers instrument rfl hok
   cases hstep
   exact hnext.resolved hok
 · rintro scope query answers snapshot place other found found' rfl hdata hplace hfd hoth hfd' hne
   cases hstep
   cases hres : (c.resolve config answers scope query).2 with
   | error err=>exact ⟨err,rfl⟩
   | ok=>
    obtain ⟨published,place',only,hpub,-,honly⟩:=hnext.resolved hres
    cases hdata.symm.trans hpub
    exact absurd ((honly.only hplace hfd).trans (honly.only hoth hfd').symm) hne

theorem Good.along (h:Good c) (events:List Event) (hroom:c.next.toNat+events.length<2^64):
 Along (step config) (fun c event=>∀ next,step config c event=some next→Keeps config c event next) c
  events:=by
 induction events generalizing c with
 | nil=>trivial
 | cons event rest ih=>
  rw[length_cons] at hroom
  refine ⟨fun next hstep=>h.keeps (by omega) hstep,fun next hstep=>?_⟩
  obtain ⟨hnext,hct⟩:=h.of_step (by omega) hstep
  exact ih hnext (by omega)

end

theorem good_empty:Good {}:=by
 constructor<;>intro scope snapshot hsome<;>cases hsome

/-- Failed loads keep the snapshot, generations grow and `Resolve` is sound. -/
theorem catalog_keeps (config:Config) (events:List Event) (hlength:events.length<2^64):
 Along (step config) (fun c event=>∀ next,step config c event=some next→Keeps config c event next) {}
  events:=by
 refine good_empty.along events ?_
 simpa using hlength

/-! ## The first load of a scope -/

def Accepted (config:Config) (scope:CatalogScope) (now:Int) (source:InstrumentSnapshot):Prop:=
 ∃ prepared,Catalog.prepare config scope now source=.ok prepared

structure Publishes (config:Config) (c:Catalog) (scope:CatalogScope) (now:Int) (source:InstrumentSnapshot)
  (outcome:Outcome):Prop where
 accepted:∃ prepared,Catalog.prepare config scope now source=.ok prepared∧
  outcome.snapshot = {prepared with generation:=c.next+1}
 err:outcome.err=none
 data:outcome.catalog.data scope=some outcome.snapshot

def FirstLoads (config:Config) (answers:Answers) (c:Catalog) (scope:CatalogScope) (loaded:InstrumentSnapshot):
 Prop:=
 ∃ source,Publishes config c scope answers.now source (c.snapshot config answers scope)∧
  (∀ query,(c.resolve config answers scope query).1.data scope=some (c.snapshot config answers scope).snapshot)∧
  (source=loaded∨config.store=true∧answers.stored=.ok (some source))∧
  ∀ stored,config.store=true→ answers.stored=.ok (some stored)→Accepted config scope answers.now stored →
   source=stored

section
variable {config:Config} {answers:Answers} {c:Catalog} {scope:CatalogScope} {source loaded:InstrumentSnapshot}

theorem publishes_of_accepted {now:Int} (h:Accepted config scope now source):
 Publishes config c scope now source (c.publish config scope now source):=by
 obtain ⟨prepared,hpre⟩:=h
 unfold Catalog.publish
 rw[hpre]
 exact ⟨⟨prepared,hpre,rfl⟩,rfl,Function.update_self _ _ _⟩

theorem loadFromLoader_publishes (hload:config.loader=true∨c.srcs scope≠none)
 (hloa:answers.loaded=.ok loaded) (hacc:Accepted config scope answers.now loaded):
 Publishes config c scope answers.now loaded (c.loadFromLoader config answers scope):=by
 have hpub:=@publishes_of_accepted config c scope loaded answers.now hacc
 have hrea:¬(¬config.loader=true∧c.srcs scope=none):=fun h=>hload.elim h.1 fun hsou=>hsou h.2
 unfold Catalog.loadFromLoader
 rw[if_neg hrea,hloa]
 dsimp only
 rw[hpub.err]
 cases answers.saved with
 | none=>exact hpub
 | some err=>
  dsimp only
  split
  · exact ⟨hpub.accepted,rfl,hpub.data⟩
  · exact hpub

/-- When the first use of a scope ends with a published snapshot. -/
theorem first_load_publishes_iff (hfirst:c.data scope=none) (hloader:config.loader=true∨c.srcs scope≠none)
 (hloaded:answers.loaded=.ok loaded) (haccepted:Accepted config scope answers.now loaded):
 FirstLoads config answers c scope loaded ↔
  ∀ stored,config.store=true→ answers.stored=.ok (some stored)→Accepted config scope answers.now stored:=by
 have hsn:∀ {source},Publishes config c scope answers.now source (c.loadAndPublish config answers scope false) →
   c.snapshot config answers scope=c.loadAndPublish config answers scope false:=by
  intro source h
  rw[Catalog.snapshot,hfirst]
  exact if_pos h.err
 constructor
 · rintro ⟨source,hpub,-⟩ stored hstor hsto
   cases hpre : Catalog.prepare config scope answers.now stored with
   | ok prepared=>exact ⟨prepared,hpre⟩
   | error err=>
    have herr:=hpub.err
    grind [Catalog.snapshot,Catalog.loadAndPublish,Catalog.publish]
 · intro hall
   have hpub:∃ source,Publishes config c scope answers.now source (c.loadAndPublish config answers scope false)∧
     (source=loaded∨config.store=true∧answers.stored=.ok (some source))∧
     ∀ stored,config.store=true→ answers.stored=.ok (some stored)→ source=stored:=by
    unfold Catalog.loadAndPublish
    split
    next hstor=>
     split
     next err hsto=>
      have hlat:=loadFromLoader_publishes (c:=c.rememberError scope err) hloader hloaded haccepted
      exact ⟨loaded,⟨hlat.accepted,hlat.err,hlat.data⟩,.inl rfl,fun _ _ h=>nomatch hsto.symm.trans h⟩
     next stored hsto=>
      refine ⟨stored,publishes_of_accepted (hall stored hstor.2 hsto),.inr ⟨hstor.2,hsto⟩,fun _ _ h=>?_⟩
      grind
     next hsto=>
      exact ⟨loaded,loadFromLoader_publishes hloader hloaded haccepted,.inl rfl,fun _ _ h=>nomatch hsto.symm.trans h⟩
    next hstor=>
     refine ⟨loaded,loadFromLoader_publishes hloader hloaded haccepted,.inl rfl,fun _ h _=>?_⟩
     grind
   obtain ⟨source,hpub,hsou,honly⟩:=hpub
   have hsame:=hsn hpub
   refine ⟨source,hsame▸hpub,fun query=>?_,hsou,fun stored hstor hsto _=>honly stored hstor hsto⟩
   rw[hsame]
   exact hsame▸hpub.data

end

namespace Scenario

def scope:CatalogScope:={venue:=.binance,environment:="live",product:=.spot}
def config:Config:={loader:=true,store:=false,snapshotRevision:=fun _ _ _ => "r" }

def instrument:Instrument:=
 { identity:=
    { venue:=.binance,product:=.spot,symbol:="BTC-USDT",baseAsset:="BTC",quoteAsset:="USDT"
      nativeSymbol:="BTCUSDT" }
   rules:={priceIncrement:=⟨1,-2⟩,quantityIncrement:=⟨1,-5⟩}}

def source:InstrumentSnapshot:={scope,instruments:=[instrument]}
def reload:Event:=.refresh scope {loaded:=.ok source,now:=1}
def timeout:Event:=.refresh scope {loaded:=.error {typeName:="*url.Error" },now:=2}
def lookup:Event:=.resolve scope {nativeSymbol:="BTCUSDT" } {loaded:=.ok {},now:=3}
def stale:Answers:={stored:=.ok (some {source with instruments:=[instrument,instrument]}),loaded:=.ok source,now:=1}

theorem step_reload (c:Catalog):∃ next snapshot,step config c reload=some next∧
 next.data scope=some snapshot∧next.next=c.next+1∧snapshot.generation=c.next+1:=by
 have herr:(c.refresh config {loaded:=.ok source,now:=1} scope).err=none:=by rfl
 cases loadAndPublish_loaded config {loaded:=.ok source,now:=1} c scope true with
 | failed err herr'=>cases herr.symm.trans herr'
 | published now source' prepared hpre _ hsn hdata hnext=>
  have hgen:(c.refresh config {loaded:=.ok source,now:=1} scope).snapshot.generation=c.next+1:=
   congrArg InstrumentSnapshot.generation hsn
  exact ⟨_,_,rfl,(congrFun hdata scope).trans (Function.update_self _ _ _),hnext,hgen⟩

theorem run_reloads (n:ℕ):∃ c,run (step config) {} (List.replicate n reload)=some c∧
 c.next.toNat=n % 2^64∧(0<n → ∃ snapshot,c.data scope=some snapshot∧snapshot.generation=c.next):=by
 induction n with
 | zero=>exact ⟨{},rfl,rfl,fun h=>absurd h (Nat.lt_irrefl 0)⟩
 | succ n ih=>
  obtain ⟨c,hrun,hct,-⟩:=ih
  obtain ⟨next,snapshot,hstep,hdata,hnext,hgen⟩:=step_reload c
  refine ⟨next,?_,?_,fun _=>⟨snapshot,hdata,hgen.trans hnext.symm⟩⟩
  · rw[replicate_succ']
    exact run_append_eq_some.mpr ⟨c,hrun,(run_cons_of_step hstep []).trans rfl⟩
  · grind [UInt64.toNat_add,Nat.mod_add_mod]

end Scenario

theorem catalog_keeps_reload :
 Along (step Scenario.config)
  (fun c event=>∀ next,step Scenario.config c event=some next→Keeps Scenario.config c event next) {}
  [Scenario.reload,Scenario.timeout,Scenario.lookup]:=
 catalog_keeps Scenario.config [Scenario.reload,Scenario.timeout,Scenario.lookup] (by decide)

theorem generation_wraps :
 ∃ c next old new,run (step Scenario.config) {} (List.replicate (2^64-1) Scenario.reload)=some c∧
  step Scenario.config c Scenario.reload=some next∧c.data Scenario.scope=some old∧
  next.data Scenario.scope=some new∧new.generation<old.generation:=by
 obtain ⟨c,hrun,hct,hpub⟩:=Scenario.run_reloads (2^64-1)
 obtain ⟨old,hold,hgen⟩:=hpub (by omega)
 obtain ⟨next,new,hstep,hnew,-,hgen'⟩:=Scenario.step_reload c
 refine ⟨c,next,old,new,hrun,hstep,hold,hnew,?_⟩
 rw[hgen,hgen',UInt64.lt_iff_toNat_lt,UInt64.toNat_add,hct]
 decide

theorem first_load_takes_the_loaded :
    FirstLoads {Scenario.config with store := true}
      {stored := .ok (some Scenario.source), loaded := .ok Scenario.source, now := 1} {} Scenario.scope
      Scenario.source := by
  refine (first_load_publishes_iff rfl (.inl rfl) rfl ⟨_, rfl⟩).mpr fun stored _ hstored => ?_
  cases hstored
  exact ⟨_, rfl⟩

theorem stored_duplicate_hides_the_loaded :
 Accepted {Scenario.config with store:=true} Scenario.scope 1 Scenario.source∧
  (Catalog.snapshot {Scenario.config with store:=true} Scenario.stale {} Scenario.scope).err =
   some (.own (invalidCatalog "duplicate canonical symbol"))∧
  (Catalog.snapshot {Scenario.config with store:=true} Scenario.stale {} Scenario.scope).catalog.data Scenario.scope=none:=
 ⟨⟨_,rfl⟩,rfl,rfl⟩

end BolterTrader.Exchange.MemoryCatalog
