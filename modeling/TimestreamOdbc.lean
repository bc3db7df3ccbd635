import TimestreamOdbc.Lib.TransitionSystem
import TimestreamOdbc.Query.Producer
import TimestreamOdbc.Query.Paging
import TimestreamOdbc.Query.Reexecution
import TimestreamOdbc.Query.FailedPage
import TimestreamOdbc.Lib.RightScan
import TimestreamOdbc.Lib.Delimited
import TimestreamOdbc.Lib.BlockHeap
import TimestreamOdbc.Config.RoundTrip
import TimestreamOdbc.Config.SegmentLaw
import TimestreamOdbc.Config.NumericAttributes
import TimestreamOdbc.Connection
import TimestreamOdbc.DsnMerge
import TimestreamOdbc.DsnReadBack
import TimestreamOdbc.App.Truncation
import TimestreamOdbc.App.AnsiPath
import TimestreamOdbc.App.WideCopy
import TimestreamOdbc.App.IntegerConversions
import TimestreamOdbc.App.IntegerReadBack
import TimestreamOdbc.App.TemporalRoundTrip
import TimestreamOdbc.App.Milliseconds
import TimestreamOdbc.App.TemporalReadBack
import TimestreamOdbc.App.Intervals
import TimestreamOdbc.App.CompositeDelivery
import TimestreamOdbc.App.RowsetElements
import TimestreamOdbc.Pieces
import TimestreamOdbc.RowStart
import TimestreamOdbc.CursorState
import TimestreamOdbc.Query.RowVisibility
import TimestreamOdbc.Query.RemainingRows
import TimestreamOdbc.Query.SettledFetch
import TimestreamOdbc.RowsetFetch
import TimestreamOdbc.ConversionWarnings
import TimestreamOdbc.RowDescriptors
import TimestreamOdbc.BindingMirror
import TimestreamOdbc.ColumnAttributes
import TimestreamOdbc.Query.CatalogStatements
import TimestreamOdbc.Query.IdentifiedTables
import TimestreamOdbc.Lib.SearchPattern
import TimestreamOdbc.Query.ColumnContent
import TimestreamOdbc.Query.ShortenedListing
import TimestreamOdbc.ClientProxy
import TimestreamOdbc.Authentication.Okta
import TimestreamOdbc.Authentication.Saml
import TimestreamOdbc.ConnectionAttributes
import TimestreamOdbc.DescriptorCopy
import TimestreamOdbc.DescriptorTypes
import TimestreamOdbc.DescriptorFields
import TimestreamOdbc.OutputTexts
import TimestreamOdbc.Diagnostics
import TimestreamOdbc.Logger
import TimestreamOdbc.CursorNames
import TimestreamOdbc.SdkLifetime
import TimestreamOdbc.StatementAttributes
import TimestreamOdbc.Query.ColumnDiscovery
import TimestreamOdbc.UriComponent
import TimestreamOdbc.Ignite.DecimalRoundTrip
import TimestreamOdbc.Ignite.Arithmetic
import TimestreamOdbc.Ignite.Order
import TimestreamOdbc.Ignite.ByteOrders
import TimestreamOdbc.App.DecimalBuffers
import TimestreamOdbc.PatternAgreement
import TimestreamOdbc.Ignite.DynamicSizeArray
import TimestreamOdbc.Ignite.ArrayRuns
