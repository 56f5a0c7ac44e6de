import RuleTiles.Main
import RuleTiles.Proofs.Search.Solution
import RuleTiles.Proofs.Play.Win
import RuleTiles.Record.Snapshot
import RuleTiles.Proofs.Json.Written
import RuleTiles.Proofs.Record.Codecs
import RuleTiles.Proofs.Board.Size
import RuleTiles.Proofs.Session.Commands
import RuleTiles.Proofs.Session.Account
import RuleTiles.Proofs.Session.Rules
import RuleTiles.Proofs.Board.Places
import RuleTiles.Proofs.Checked.Board
import RuleTiles.Proofs.Checked.Turn
import RuleTiles.Proofs.Checked.Session
import RuleTiles.Proofs.Board.Lines
import RuleTiles.Proofs.Board.Way
import RuleTiles.Proofs.Turn.Cleared
import RuleTiles.Proofs.Checked.Carrying
import RuleTiles.Proofs.Board.Facings
import RuleTiles.Proofs.Board.Numbers
import RuleTiles.Proofs.Turn.Merged
import RuleTiles.Proofs.Turn.Shifted
import RuleTiles.Proofs.Turn.Faced
import RuleTiles.Proofs.Turn.Rounds
import RuleTiles.Proofs.Turn.Walked
import RuleTiles.Proofs.Session.Seeds
import RuleTiles.Proofs.Board.Transpose
import RuleTiles.Proofs.Turn.Transformed
import RuleTiles.Proofs.Turn.Transpose
import RuleTiles.Proofs.Turn.Replaced
import RuleTiles.Proofs.Board.Sentences
import RuleTiles.Proofs.Turn.Destroyed
import RuleTiles.Proofs.Turn.Accounted
import RuleTiles.Proofs.Turn.Superseded
import RuleTiles.Proofs.Search.Limits
import RuleTiles.Proofs.Level.Faults
import RuleTiles.Proofs.Board.Inventory
import RuleTiles.Proofs.Board.Distance
import RuleTiles.Proofs.Record.Reports
import RuleTiles.Proofs.Record.Boards
import RuleTiles.Proofs.Board.Drawn
