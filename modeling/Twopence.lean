import Twopence.Wire
import Twopence.Link
import Twopence.Frame
import Twopence.Encode
import Twopence.Channel
import Twopence.Transaction
import Twopence.Status
import Twopence.Plugging
import Twopence.Callbacks
import Twopence.Client
import Twopence.Decimal
import Twopence.Results
import Twopence.Session
import Twopence.Transfer
import Twopence.RoundTrip
import Twopence.Api
