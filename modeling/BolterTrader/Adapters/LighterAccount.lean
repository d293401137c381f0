import BolterTrader.Exchange.Accounts
import BolterTrader.ExactLookup.Lighter

/-! The balances of Lighter's private stream (`lighter_private_websocket.go`,
`lighter_rest.go`): each message of the all-assets channel lists every asset the
account holds. -/
namespace BolterTrader.Adapters.Lighter
open Foundations Foundations.Fallible Exchange ExactLookup ExactLookup.Lighter

structure SpotAsset where
 symbol:String:=""
 balance:String:=""
 lockedBalance:String:=""

section
variable (lib:Library) (product:Product) (operation:String)

def spotBalance:Option SpotAsset→Except NativeError Balance
 | none=>.error (lighterMalformed product operation "invalid asset row")
 | some row=>do
  refuse (row.symbol="") (lighterMalformed product operation "invalid asset row")
  let available ← (lighterNonNegativeDecimal lib row.balance).mapError fun _=>
   lighterMalformed product operation "invalid balance"
  let locked ← (lighterNonNegativeDecimal lib row.lockedBalance).mapError fun _=>
   lighterMalformed product operation "invalid locked balance"
  return {asset:=row.symbol,available,locked,total:=available.add locked}

def lighterSpotBalances (rows:List (Option SpotAsset)):Except NativeError (List Balance):=
 rows.mapM (spotBalance lib product operation)

def allAssetsEvent (rows:List (Option SpotAsset)):Except NativeError BalanceEvent:=
 (lighterSpotBalances lib product operation rows).map fun balances=>{kind:=.snapshot,balances}

end

end BolterTrader.Adapters.Lighter
