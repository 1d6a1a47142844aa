import AvsRegistry.Types
import AvsRegistry.ChainCaller
import AvsRegistry.Fake
import AvsRegistry.Reader
import AvsRegistry.Session
import AvsRegistry.Builder
