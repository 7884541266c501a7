import Resultset.Cursor.Session
import Resultset.Schema.Json
import Resultset.Stream.Faulty
import Resultset.Stream.Queue
import Resultset.Value.Json
import Resultset.Proofs.Outcomes
import Resultset.Proofs.Overlaps
import Resultset.Proofs.Closing
import Resultset.Proofs.Interleaving
import Resultset.Proofs.Queries
import Resultset.Proofs.Delivery
import Resultset.Proofs.Recording
import Resultset.Proofs.Release
import Resultset.Proofs.Calls
import Resultset.Proofs.Recovery
import Resultset.Proofs.Chronicle
import Resultset.Proofs.DecimalText
import Resultset.Proofs.JsonText
import Resultset.Proofs.JsonShapes
import Resultset.Proofs.SchemaText
import Resultset.Proofs.Agreement
import Resultset.Proofs.ValueText
import Resultset.Proofs.Fitting
import Resultset.Proofs.Rescaling
import Resultset.Proofs.Overscaling
import Resultset.Proofs.Rereading
import Resultset.Proofs.OverscaledColumns
import Resultset.Proofs.DecimalLiterals
import Resultset.Proofs.TextRounding
import Resultset.Proofs.IntegerReadings
import Resultset.Proofs.OneShot
import Resultset.Proofs.Checks
import Resultset.Proofs.Names
import Resultset.Proofs.DecimalScales
import Resultset.Proofs.Padding
import Resultset.Proofs.TypeSpelling
import Resultset.Proofs.ByteText
