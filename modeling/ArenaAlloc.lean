import ArenaAlloc.Arena.Session
import ArenaAlloc.Chain.Session
import ArenaAlloc.Proofs.Arena.Contents
import ArenaAlloc.Proofs.FreeList
import ArenaAlloc.Proofs.LiveTable
import ArenaAlloc.Proofs.Mapping
import ArenaAlloc.Proofs.Tiling
import ArenaAlloc.Proofs.Arena.Denial
import ArenaAlloc.Proofs.Chain.Issue
import ArenaAlloc.Proofs.Chain.Ledger
import ArenaAlloc.Proofs.Chain.Loans
import ArenaAlloc.Proofs.Chain.Custody
import ArenaAlloc.Proofs.Chain.Roles
import ArenaAlloc.Proofs.Guarded.Arena
import ArenaAlloc.Proofs.Guarded.Chain
import ArenaAlloc.Proofs.Guarded.Total
import ArenaAlloc.Proofs.Guarded.Rounding
import ArenaAlloc.Proofs.Arena.Hygiene
import ArenaAlloc.Proofs.Chain.Hygiene
import ArenaAlloc.Proofs.SpanList
import ArenaAlloc.Proofs.Arena.Twin
import ArenaAlloc.Proofs.Arena.Renewal
import ArenaAlloc.Proofs.Arena.Refusal
import ArenaAlloc.Proofs.Arena.Placement
import ArenaAlloc.Proofs.Chain.Outcome
import ArenaAlloc.Proofs.Arena.Oblivious
import ArenaAlloc.Proofs.Arena.Growth
import ArenaAlloc.Proofs.Arena.Directives
import ArenaAlloc.Proofs.Arena.Reuse
import ArenaAlloc.Proofs.Arena.Bracket
import ArenaAlloc.Proofs.Arena.Values
import ArenaAlloc.Proofs.Pages
import ArenaAlloc.Proofs.Roster
import ArenaAlloc.Proofs.Arena.Tombstones
import ArenaAlloc.Proofs.Guarded.Rounding
