import BolterTrader.Foundations.Msgpack

/-! The bytes that are hashed to sign a Hyperliquid action
(`sdk/hyperliquid/signing.go`, `action_types.go`): the MessagePack text of the action,
after a pass over its bytes that turns what looks like the header of a short string in
the 16-bit form into the 8-bit form. -/
namespace BolterTrader.Hyperliquid
open Foundations Msgpack

/-! ## Actions -/

abbrev Text:=List UInt8
def ascii (text:String):Text:=text.toList.map fun c=>UInt8.ofNat c.toNat

structure OrderTypeWireTrigger where
 isMarket:Bool
 triggerPx:Text
 tpsl:Text

structure OrderTypeWire where
 limit:Option Text:=none
 trigger:Option OrderTypeWireTrigger:=none

structure OrderWire where
 asset:Int64
 isBuy:Bool
 limitPx:Text
 size:Text
 reduceOnly:Bool
 orderType:OrderTypeWire
 cloid:Option Text:=none

structure Builder where
 builder:Text
 fee:Int64

structure CancelOrderWire where
 asset:Int64
 orderId:Int64

inductive Oid where
 | number (id:Int64) | cloid (id:Text)

structure ModifyOrderAction where
 type:Text
 oid:Oid
 order:OrderWire

inductive Action where
 | createOrder (type:Text) (orders:Option (List OrderWire)) (grouping:Text) (builder:Option Builder)
 | cancelOrder (type:Text) (cancels:Option (List CancelOrderWire))
 | modifyOrder (action:ModifyOrderAction)
 | batchModify (type:Text) (modifies:Option (List ModifyOrderAction))

/-! ## Their MessagePack items -/

def structItems (fields:List (String×Option (List Item))):List Item:=
 let present:=fields.filterMap fun field=>field.2.map (.str (ascii field.1) :: ·)
 .map present.length::present.flatten

def sliceItems {α:Type} (items:α→List Item):Option (List α)→List Item
 | none=>[.nil]
 | some elements=>.array elements.length::elements.flatMap items

def number (n:Int64):Option (List Item):=some [.int n.toInt]
def text (t:Text):Option (List Item):=some [.str t]
def flag (b:Bool):Option (List Item):=some [.bool b]
def nonEmpty (t:Text):Option (List Item):=if t=[] then none else text t

def OrderTypeWire.items (orderType:OrderTypeWire):List Item:=
 structItems [
  ("limit",orderType.limit.map fun tif=>structItems [("tif",text tif)]),
  ("trigger",orderType.trigger.map fun trigger=>structItems [
   ("isMarket",flag trigger.isMarket),("triggerPx",text trigger.triggerPx),("tpsl",text trigger.tpsl)])]

def OrderWire.items (order:OrderWire):List Item:=
 structItems [
  ("a",number order.asset),("b",flag order.isBuy),("p",text order.limitPx),("s",text order.size),
  ("r",flag order.reduceOnly),("t",some order.orderType.items),("c",order.cloid.bind text)]

def CancelOrderWire.items (cancel:CancelOrderWire):List Item:=
 structItems [("a",number cancel.asset),("o",number cancel.orderId)]

def Builder.items (builder:Builder):List Item:=
 structItems [("b",text builder.builder),("f",number builder.fee)]

def Oid.items:Oid→Option (List Item)
 | .number id=>Hyperliquid.number id
 | .cloid id=>text id

def ModifyOrderAction.items (action:ModifyOrderAction):List Item:=
 structItems [("type",nonEmpty action.type),("oid",action.oid.items),("order",some action.order.items)]

def Action.items:Action→List Item
 | .createOrder type orders grouping builder=>
  structItems [
   ("type",text type),("orders",some (sliceItems OrderWire.items orders)),("grouping",nonEmpty grouping),
   ("builder",builder.map Builder.items)]
 | .cancelOrder type cancels=>
  structItems [("type",text type),("cancels",some (sliceItems CancelOrderWire.items cancels))]
 | .modifyOrder action=>action.items
 | .batchModify type modifies=>
  structItems [("type",text type),("modifies",some (sliceItems ModifyOrderAction.items modifies))]

/-! ## The bytes that are hashed -/

def shortStr16:List UInt8→Bool
 | b::high::low::_=>b == 0xda && high.toNat*256+low.toNat<256
 | _=>false

def convertFrom:ℕ→List UInt8→List UInt8
 | _,[]=>[]
 | copied+1,b::rest=>b::convertFrom copied rest
 | 0,b::high::low::rest=>
  let length:=high.toNat*256+low.toNat
  if shortStr16 (b::high::low::rest) then
   0xd9::UInt8.ofNat length::convertFrom (if length≤rest.length then length else 0) rest
  else b::convertFrom 0 (high::low::rest)
 | 0,b::rest=>b::convertFrom 0 rest

def convertStr16ToStr8 (data:List UInt8):List UInt8:=convertFrom 0 data

structure Packages where
 encode:List Item→List UInt8
 encode_eq:∀ items,(∀ item∈items,item.Fits)→ encode items=Msgpack.encode items

section
variable (packages:Packages)

def actionData (action:Action):List UInt8:=convertStr16ToStr8 (packages.encode action.items)

end

/-! ## The rewriting -/

theorem length_convertFrom_le (cpd:ℕ) (data:List UInt8):(convertFrom cpd data).length≤data.length:=by
 fun_induction convertFrom cpd data with
 | case1=>exact Nat.le_refl 0
 | case2 cpd b rest ih=>exact Nat.succ_le_succ ih
 | case3 b high low rest lng hsho ih=>
  grind
 | case4 b high low rest hsho ih=>exact Nat.succ_le_succ ih
 | case5 b rest _ ih=>exact Nat.succ_le_succ ih

theorem convertFrom_cons {b:UInt8} {rest:List UInt8} (h:shortStr16 (b::rest)=false):
 convertFrom 0 (b::rest)=b::convertFrom 0 rest:=by
 match rest with
 | []=>rfl
 | [_]=>rfl
 | high::low::rest=>rw[convertFrom,if_neg (by simp[h])]

def Disturbed (data:List UInt8):Prop:=∃ tail∈data.tails,shortStr16 tail=true

instance (data:List UInt8):Decidable (Disturbed data):=by
 unfold Disturbed
 infer_instance

theorem disturbed_cons {b:UInt8} {rest:List UInt8} (h:shortStr16 (b::rest)=false):
 Disturbed (b::rest) ↔ Disturbed rest:=by
 simp[Disturbed,h]

theorem convertStr16ToStr8_of_not_disturbed {data:List UInt8} (h:¬Disturbed data):
 convertStr16ToStr8 data=data:=by
 induction data with
 | nil=>rfl
 | cons b rest ih=>
  have htest:shortStr16 (b::rest)=false:=by
   rw[←Bool.not_eq_true]
   exact fun hsho=>h ⟨b::rest,by simp,hsho⟩
  grind [disturbed_cons,convertStr16ToStr8,convertFrom_cons]

theorem length_convertStr16ToStr8_of_disturbed {data:List UInt8} (h:Disturbed data):
 (convertStr16ToStr8 data).length<data.length:=by
 induction data with
 | nil=>exact absurd h (by decide)
 | cons b rest ih=>
  by_cases htest:shortStr16 (b::rest)=true
  · match rest with
    | []=>cases htest
    | [_]=>cases htest
    | high::low::rest=>
     -- three bytes of header become two
     have hle:=length_convertFrom_le (if high.toNat*256+low.toNat≤rest.length then
      high.toNat*256+low.toNat else 0) rest
     rw[convertStr16ToStr8,convertFrom,if_pos htest]
     grind
  · grind [disturbed_cons,convertStr16ToStr8,convertFrom_cons]

/-! ## Decoding the bytes before the nonce -/

theorem actionData_decodes_iff (packages:Packages) (action:Action) (hfits:∀ item∈action.items,item.Fits):
 decode (actionData packages action)=some action.items ↔ ¬Disturbed (Msgpack.encode action.items):=by
 rw[actionData,packages.encode_eq action.items hfits]
 constructor
 · intro hdec hdis
   have hshor:=length_convertStr16ToStr8_of_disturbed hdis
   have hsho:=length_encode_of_decode hdec
   omega
 · intro hcle
   rw[convertStr16ToStr8_of_not_disturbed hcle,decode_encode hfits]

def cancel (orderId:Int64):Action:=.cancelOrder (ascii "cancel") (some [⟨5,orderId⟩])
def specified:Packages:=⟨Msgpack.encode,fun _ _=>rfl⟩

theorem cancel_decodes :
 ¬Disturbed (Msgpack.encode (cancel 91490942).items)∧
 decode (actionData specified (cancel 91490942))=some (cancel 91490942).items:=
 ⟨by decide,(actionData_decodes_iff specified (cancel 91490942) (by decide)).mpr (by decide)⟩

theorem cancel_rewritten :
 (Msgpack.encode (cancel 0xda0000).items).drop 28=[0xce,0x00,0xda,0x00,0x00]∧
 (actionData specified (cancel 0xda0000)).drop 28=[0xce,0x00,0xd9,0x00]∧
 decode (actionData specified (cancel 0xda0000))=none:=by
 refine ⟨by decide,by decide,by decide⟩

end BolterTrader.Hyperliquid
