import BolterTrader.Foundations.Decimal

/-! The normalized exchange error (`exchange/errors.go`). -/
namespace BolterTrader.Exchange
open Foundations

inductive Venue where
 | unset | binance | okx | lighter | hyperliquid | bybit | bitget | gate | aster | nado
 deriving DecidableEq

def Venue.text:Venue→String
 | .unset => ""
 | .binance => "binance"
 | .okx => "okx"
 | .lighter => "lighter"
 | .hyperliquid => "hyperliquid"
 | .bybit => "bybit"
 | .bitget => "bitget"
 | .gate => "gate"
 | .aster => "aster"
 | .nado => "nado"

inductive Product where
 | unset | spot | perp
 deriving DecidableEq

def Product.text:Product→String
 | .unset => ""
 | .spot => "spot"
 | .perp => "perp"

inductive ErrorKind where
 | invalidConfig | invalidRequest | authentication | permission | rateLimit | notFound
 | unsupported | venueRejected | transport | ambiguousOutcome | malformedResponse
 | metadataResolution | canceled | deadlineExceeded | subscriptionGap | subscriptionClosed
 deriving DecidableEq

def ErrorKind.text:ErrorKind→String
 | .invalidConfig => "invalid_config"
 | .invalidRequest => "invalid_request"
 | .authentication => "authentication"
 | .permission => "permission"
 | .rateLimit => "rate_limit"
 | .notFound => "not_found"
 | .unsupported => "unsupported"
 | .venueRejected => "venue_rejected"
 | .transport => "transport"
 | .ambiguousOutcome => "ambiguous_outcome"
 | .malformedResponse => "malformed_response"
 | .metadataResolution => "metadata_resolution"
 | .canceled => "canceled"
 | .deadlineExceeded => "deadline_exceeded"
 | .subscriptionGap => "subscription_gap"
 | .subscriptionClosed => "subscription_closed"

structure ErrorDetails where
 venue:Venue:=.unset
 product:Product:=.unset
 operation:String:=""
 code:String:=""
 safeMessage:String:=""
 retryAfter:Int:=0
 httpStatus:Int:=0
 venueMessage:String:=""
 commandNotSent:Bool:=false
 deriving DecidableEq

structure Error where
 kind:ErrorKind
 details:ErrorDetails
 deriving DecidableEq

/-! ## Rendering -/

def durationText (nanos:Int):String:=
 if nanos<1000 then toString nanos ++ "ns"
 else if nanos<1000000 then (⟨nanos,-3⟩ : Decimal).toText ++ "µs"
 else if nanos<1000000000 then (⟨nanos,-6⟩ : Decimal).toText ++ "ms"
 else
  let seconds:=(⟨nanos % 60000000000,-9⟩ : Decimal).toText ++ "s"
  let minutes:=nanos/60000000000
  if minutes=0 then seconds
  else if minutes/60=0 then toString minutes ++ "m" ++ seconds
  else toString (minutes/60) ++ "h" ++ toString (minutes % 60) ++ "m" ++ seconds

example : durationText 3723500000000="1h2m3.5s" := by decide

def Error.text (err:Error):String:=
 let d:=err.details
 let parts:=[d.venue.text,d.product.text,d.operation,d.code,d.safeMessage].filter (· ≠ "")
 let retry:=if 0<d.retryAfter then ["retry_after=" ++ durationText d.retryAfter] else []
 String.intercalate ": " (err.kind.text::parts++retry)

end BolterTrader.Exchange
