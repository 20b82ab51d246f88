import YieldAdapter.Solana.Address
import YieldAdapter.Solana.Exec
import YieldAdapter.Solana.Bytes
import YieldAdapter.Solana.World
import YieldAdapter.Solana.Invoke
import YieldAdapter.Solana.Token
import YieldAdapter.Solana.Anchor
import YieldAdapter.Solana.Persistence
import YieldAdapter.Solana.Run
import YieldAdapter.Solana.Format
import YieldAdapter.Accounting.ShareLedger
import YieldAdapter.Accounting.FloorPrice
import YieldAdapter.Accounting.Router
import YieldAdapter.Interface
import YieldAdapter.Codec
import YieldAdapter.State
import YieldAdapter.Adapter.Common
import YieldAdapter.Adapter.KaminoUsdc
import YieldAdapter.Adapter.MarginfiUsdc
import YieldAdapter.Adapter.JupiterLp
import YieldAdapter.Adapter.MapleSyrup
import YieldAdapter.Adapter.DriftIf
import YieldAdapter.Adapter.Pricing
import YieldAdapter.Adapter.Valuation
import YieldAdapter.Adapter.BalanceScan
import YieldAdapter.Adapter.Staleness
import YieldAdapter.Adapter.Binding
import YieldAdapter.Adapter.Programs
import YieldAdapter.Adapter.Effects
import YieldAdapter.Adapter.Creation
import YieldAdapter.Formats
import YieldAdapter.Dispatcher.Routing
import YieldAdapter.Dispatcher.Instructions
import YieldAdapter.Dispatcher.Effects
import YieldAdapter.Dispatcher.Run
import YieldAdapter.Dispatcher.Custody
import YieldAdapter.Dispatcher.Governance
import YieldAdapter.Dispatcher.Roster
import YieldAdapter.Dispatcher.Suite
import YieldAdapter.Dispatcher.Shares
import YieldAdapter.Dispatcher.EventLog
import YieldAdapter.Dispatcher.Idle
import YieldAdapter.Dispatcher.Values
import YieldAdapter.Dispatcher.StakeLedger
import YieldAdapter.Dispatcher.LendLedger
import YieldAdapter.Dispatcher.Pool
import YieldAdapter.Dispatcher.Surplus
import YieldAdapter.Dispatcher.Opening
import YieldAdapter.Dispatcher.Staleness
import YieldAdapter.Dispatcher.Availability
import YieldAdapter.Dispatcher.Pairing
import YieldAdapter.Dispatcher.Wallet
import YieldAdapter.Dispatcher.Reading
import YieldAdapter.Dispatcher.Wire
