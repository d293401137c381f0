import BolterTrader.Exchange.Errors

/-! The caller-facing description of a venue failure (`gateway/account/errors.go`):
a class that is the same for every venue, and a short explanation for display. -/
namespace BolterTrader.Gateway
open Exchange

inductive Category where
 | unset | network | rejected | credentials | rateLimited | invalid | unsupported | venueError
 deriving DecidableEq

structure VenueFailure where
 category:Category:=.unset
 venue:String:=""
 code:String:=""
 venueMessage:String:=""
 retryable:Bool:=false
 deriving DecidableEq

def VenueFailure.message (failure:VenueFailure):String:=
 let venue:=if failure.venue="" then "the exchange" else failure.venue
 match failure.category with
 | .network => "Cannot reach " ++ venue ++ " right now. Check the network or proxy and try again."
 | .rejected=>if failure.venueMessage≠"" then failure.venueMessage else venue ++ " rejected the request."
 | .credentials=>
  if failure.venueMessage≠"" then venue ++ " rejected the API key: " ++ failure.venueMessage
  else venue ++ " rejected the API key or its permissions."
 | .rateLimited=>venue ++ " rate limit reached. Wait a moment and try again."
 | .invalid=>if failure.venueMessage≠"" then failure.venueMessage else "The request is invalid."
 | .unsupported=>venue ++ " does not support this operation."
 | .venueError | .unset=>venue ++ " returned an unexpected response. Try again."

def VenueFailure.text (failure:VenueFailure):String:=
 if failure.code≠"" then failure.message ++ " (" ++ failure.code ++ ")" else failure.message

def venueName:Venue→String
 | .binance => "Binance"
 | .okx => "OKX"
 | .bybit => "Bybit"
 | .bitget => "Bitget"
 | .gate => "Gate"
 | .hyperliquid => "Hyperliquid"
 | .lighter => "Lighter"
 | .aster => "Aster"
 | .nado => "Nado"
 | .unset => ""

end BolterTrader.Gateway
