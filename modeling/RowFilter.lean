import RowFilter.Session
import RowFilter.Operand.Sort
import RowFilter.Settings.Limit
import RowFilter.Scalar
import RowFilter.Proofs.Text.Blank
import RowFilter.Proofs.Text.Upper
import RowFilter.Proofs.Text.Utf8
import RowFilter.Proofs.Wire.Percent
import RowFilter.Proofs.Wire.Quoted
import RowFilter.Proofs.Calendar.Date
import RowFilter.Proofs.Calendar.Number
import RowFilter.Proofs.Calendar.DateText
import RowFilter.Proofs.Calendar.MomentText
import RowFilter.Proofs.Calendar.Instant
import RowFilter.Proofs.Number.Integer
import RowFilter.Proofs.Operand.Order
import RowFilter.Proofs.Operand.Kind
import RowFilter.Proofs.Operation.Accepts
import RowFilter.Proofs.Operation.Switch
import RowFilter.Proofs.Operation.Sound
import RowFilter.Proofs.Operation.Shown
import RowFilter.Proofs.Table
import RowFilter.Proofs.Wire.TopLevel
import RowFilter.Proofs.Wire.Form
import RowFilter.Proofs.Wire.Group
import RowFilter.Proofs.Wire.Written
import RowFilter.Proofs.Wire.Spelling
import RowFilter.Proofs.Wire.ValueList
import RowFilter.Proofs.ChoiceSet
import RowFilter.Proofs.ChoiceSet.Toggle
import RowFilter.Proofs.Wire.ReadBack
import RowFilter.Proofs.Wire.Precedence
import RowFilter.Proofs.Wire.Fragment
import RowFilter.Proofs.Wire.RoundTrip
import RowFilter.Proofs.Wire.Canonical
import RowFilter.Proofs.Wire.Range
import RowFilter.Proofs.Wire.Day
import RowFilter.Proofs.Wire.DayPart
import RowFilter.Proofs.Wire.Columns
import RowFilter.Proofs.Wire.Language
import RowFilter.Proofs.Wire.Reparse
import RowFilter.Proofs.Wire.Resolution
import RowFilter.Proofs.Session.Params
import RowFilter.Proofs.Session.Reload
import RowFilter.Proofs.Session.Canonical
import RowFilter.Proofs.Session.Account
import RowFilter.Proofs.Session.Ignored
import RowFilter.Proofs.Session.Run
import RowFilter.Proofs.Settings.Coerce
import RowFilter.Proofs.Settings.Load
import RowFilter.Proofs.Settings.Layers
import RowFilter.Proofs.Settings.Variable
import RowFilter.Proofs.Log
