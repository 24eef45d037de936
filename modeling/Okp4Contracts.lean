import Okp4Contracts.CosmWasm
import Okp4Contracts.Utf8
import Okp4Contracts.Cognitarium.Triples
import Okp4Contracts.Cognitarium.State
import Okp4Contracts.Cognitarium.Contract
import Okp4Contracts.Cognitarium.Ledger
import Okp4Contracts.Cognitarium.Writes
import Okp4Contracts.Cognitarium.Refinement
import Okp4Contracts.Cognitarium.Run
import Okp4Contracts.Cognitarium.Batch
import Okp4Contracts.Cognitarium.Machine
import Okp4Contracts.Cognitarium.Unchecked
import Okp4Contracts.Cognitarium.Hash
import Okp4Contracts.Storage.Contract
import Okp4Contracts.Dataverse.Contract
import Okp4Contracts.Dataverse.Host
